/-!
# Names of properties and of their values

Each row holds a long name and its other names; the others are written in loose form, in lower case
without spaces, hyphens and underscores.
-/

namespace MockSchema.Unicode

/-- Every property of the database, those without a table included. -/
def propertyNames : List (String × List String) :=
  [("Age", []), ("Alphabetic", ["alpha"]), ("ASCII_Hex_Digit", ["ahex"]), ("Bidi_Class", ["bc"]),
   ("Bidi_Control", ["bidic"]), ("Bidi_Mirrored", ["bidim"]), ("Bidi_Mirroring_Glyph", ["bmg"]),
   ("Bidi_Paired_Bracket", ["bpb"]), ("Bidi_Paired_Bracket_Type", ["bpt"]), ("Block", ["blk"]),
   ("Canonical_Combining_Class", ["ccc"]), ("Cased", []), ("Case_Folding", ["cf"]),
   ("Case_Ignorable", ["ci"]), ("Changes_When_Casefolded", ["cwcf"]),
   ("Changes_When_Casemapped", ["cwcm"]), ("Changes_When_Lowercased", ["cwl"]),
   ("Changes_When_NFKC_Casefolded", ["cwkcf"]), ("Changes_When_Titlecased", ["cwt"]),
   ("Changes_When_Uppercased", ["cwu"]), ("Composition_Exclusion", ["ce"]), ("Dash", []),
   ("Decomposition_Mapping", ["dm"]), ("Decomposition_Type", ["dt"]),
   ("Default_Ignorable_Code_Point", ["di"]), ("Deprecated", ["dep"]), ("Diacritic", ["dia"]),
   ("East_Asian_Width", ["ea"]), ("Emoji", []), ("Emoji_Component", ["ecomp"]),
   ("Emoji_Modifier", ["emod"]), ("Emoji_Modifier_Base", ["ebase"]),
   ("Emoji_Presentation", ["epres"]), ("Equivalent_Unified_Ideograph", ["equideo"]),
   ("Expands_On_NFC", ["xonfc"]), ("Expands_On_NFD", ["xonfd"]), ("Expands_On_NFKC", ["xonfkc"]),
   ("Expands_On_NFKD", ["xonfkd"]), ("Extended_Pictographic", ["extpict"]), ("Extender", ["ext"]),
   ("FC_NFKC_Closure", ["fcnfkc"]), ("Full_Composition_Exclusion", ["compex"]),
   ("General_Category", ["gc"]), ("Grapheme_Base", ["grbase"]), ("Grapheme_Cluster_Break", ["gcb"]),
   ("Grapheme_Extend", ["grext"]), ("Grapheme_Link", ["grlink"]), ("Hangul_Syllable_Type", ["hst"]),
   ("Hex_Digit", ["hex"]), ("Hyphen", []), ("ID_Compat_Math_Continue", []),
   ("ID_Compat_Math_Start", []), ("ID_Continue", ["idc"]), ("Ideographic", ["ideo"]),
   ("IDS_Binary_Operator", ["idsb"]), ("ID_Start", ["ids"]), ("IDS_Trinary_Operator", ["idst"]),
   ("IDS_Unary_Operator", ["idsu"]), ("Indic_Conjunct_Break", ["incb"]),
   ("Indic_Positional_Category", ["inpc"]), ("Indic_Syllabic_Category", ["insc"]),
   ("ISO_Comment", ["isc"]), ("Jamo_Short_Name", ["jsn"]), ("Join_Control", ["joinc"]),
   ("Joining_Group", ["jg"]), ("Joining_Type", ["jt"]),
   ("kAccountingNumeric", ["cjkaccountingnumeric"]),
   ("kCompatibilityVariant", ["cjkcompatibilityvariant"]), ("kEH_Cat", []), ("kEH_Desc", []),
   ("kEH_HG", []), ("kEH_IFAO", []), ("kEH_JSesh", []), ("kEH_NoMirror", []), ("kEH_NoRotate", []),
   ("kIICore", ["cjkiicore"]), ("kIRG_GSource", ["cjkirggsource"]),
   ("kIRG_HSource", ["cjkirghsource"]), ("kIRG_JSource", ["cjkirgjsource"]),
   ("kIRG_KPSource", ["cjkirgkpsource"]), ("kIRG_KSource", ["cjkirgksource"]),
   ("kIRG_MSource", ["cjkirgmsource"]), ("kIRG_SSource", ["cjkirgssource"]),
   ("kIRG_TSource", ["cjkirgtsource"]), ("kIRG_UKSource", ["cjkirguksource"]),
   ("kIRG_USource", ["cjkirgusource"]), ("kIRG_VSource", ["cjkirgvsource"]),
   ("kOtherNumeric", ["cjkothernumeric"]), ("kPrimaryNumeric", ["cjkprimarynumeric"]),
   ("kRSUnicode", ["cjkrsunicode", "unicoderadicalstroke", "urs"]), ("Line_Break", ["lb"]),
   ("Logical_Order_Exception", ["loe"]), ("Lowercase", ["lower"]), ("Lowercase_Mapping", ["lc"]),
   ("Math", []), ("Modifier_Combining_Mark", ["mcm"]), ("Name", ["na"]), ("Name_Alias", []),
   ("NFC_Quick_Check", ["nfcqc"]), ("NFD_Quick_Check", ["nfdqc"]), ("NFKC_Casefold", ["nfkccf"]),
   ("NFKC_Quick_Check", ["nfkcqc"]), ("NFKC_Simple_Casefold", ["nfkcscf"]),
   ("NFKD_Quick_Check", ["nfkdqc"]), ("Noncharacter_Code_Point", ["nchar"]),
   ("Numeric_Type", ["nt"]), ("Numeric_Value", ["nv"]), ("Other_Alphabetic", ["oalpha"]),
   ("Other_Default_Ignorable_Code_Point", ["odi"]), ("Other_Grapheme_Extend", ["ogrext"]),
   ("Other_ID_Continue", ["oidc"]), ("Other_ID_Start", ["oids"]), ("Other_Lowercase", ["olower"]),
   ("Other_Math", ["omath"]), ("Other_Uppercase", ["oupper"]), ("Pattern_Syntax", ["patsyn"]),
   ("Pattern_White_Space", ["patws"]), ("Prepended_Concatenation_Mark", ["pcm"]),
   ("Quotation_Mark", ["qmark"]), ("Radical", []), ("Regional_Indicator", ["ri"]),
   ("Script", ["sc"]), ("Script_Extensions", ["scx"]), ("Sentence_Break", ["sb"]),
   ("Sentence_Terminal", ["sterm"]), ("Simple_Case_Folding", ["scf", "sfc"]),
   ("Simple_Lowercase_Mapping", ["slc"]), ("Simple_Titlecase_Mapping", ["stc"]),
   ("Simple_Uppercase_Mapping", ["suc"]), ("Soft_Dotted", ["sd"]),
   ("Terminal_Punctuation", ["term"]), ("Titlecase_Mapping", ["tc"]), ("Unicode_1_Name", ["na1"]),
   ("Unified_Ideograph", ["uideo"]), ("Uppercase", ["upper"]), ("Uppercase_Mapping", ["uc"]),
   ("Variation_Selector", ["vs"]), ("Vertical_Orientation", ["vo"]),
   ("White_Space", ["wspace", "space"]), ("Word_Break", ["wb"]), ("XID_Continue", ["xidc"]),
   ("XID_Start", ["xids"])]

/-- Values of the general category. -/
def categoryNames : List (String × List String) :=
  [("Cased_Letter", ["lc"]), ("Close_Punctuation", ["pe"]), ("Connector_Punctuation", ["pc"]),
   ("Control", ["cc", "cntrl"]), ("Currency_Symbol", ["sc"]), ("Dash_Punctuation", ["pd"]),
   ("Decimal_Number", ["nd", "digit"]), ("Enclosing_Mark", ["me"]), ("Final_Punctuation", ["pf"]),
   ("Format", ["cf"]), ("Initial_Punctuation", ["pi"]), ("Letter", ["l"]),
   ("Letter_Number", ["nl"]), ("Line_Separator", ["zl"]), ("Lowercase_Letter", ["ll"]),
   ("Mark", ["m", "combiningmark"]), ("Math_Symbol", ["sm"]), ("Modifier_Letter", ["lm"]),
   ("Modifier_Symbol", ["sk"]), ("Nonspacing_Mark", ["mn"]), ("Number", ["n"]),
   ("Open_Punctuation", ["ps"]), ("Other", ["c"]), ("Other_Letter", ["lo"]),
   ("Other_Number", ["no"]), ("Other_Punctuation", ["po"]), ("Other_Symbol", ["so"]),
   ("Paragraph_Separator", ["zp"]), ("Private_Use", ["co"]), ("Punctuation", ["p", "punct"]),
   ("Separator", ["z"]), ("Space_Separator", ["zs"]), ("Spacing_Mark", ["mc"]),
   ("Surrogate", ["cs"]), ("Symbol", ["s"]), ("Titlecase_Letter", ["lt"]), ("Unassigned", ["cn"]),
   ("Uppercase_Letter", ["lu"])]

/-- Values of the script. -/
def scriptNames : List (String × List String) :=
  [("Adlam", ["adlm"]), ("Ahom", []), ("Anatolian_Hieroglyphs", ["hluw"]), ("Arabic", ["arab"]),
   ("Armenian", ["armn"]), ("Avestan", ["avst"]), ("Balinese", ["bali"]), ("Bamum", ["bamu"]),
   ("Bassa_Vah", ["bass"]), ("Batak", ["batk"]), ("Bengali", ["beng"]), ("Bhaiksuki", ["bhks"]),
   ("Bopomofo", ["bopo"]), ("Brahmi", ["brah"]), ("Braille", ["brai"]), ("Buginese", ["bugi"]),
   ("Buhid", ["buhd"]), ("Canadian_Aboriginal", ["cans"]), ("Carian", ["cari"]),
   ("Caucasian_Albanian", ["aghb"]), ("Chakma", ["cakm"]), ("Cham", []), ("Cherokee", ["cher"]),
   ("Chorasmian", ["chrs"]), ("Common", ["zyyy"]), ("Coptic", ["copt", "qaac"]),
   ("Cuneiform", ["xsux"]), ("Cypriot", ["cprt"]), ("Cypro_Minoan", ["cpmn"]),
   ("Cyrillic", ["cyrl"]), ("Deseret", ["dsrt"]), ("Devanagari", ["deva"]),
   ("Dives_Akuru", ["diak"]), ("Dogra", ["dogr"]), ("Duployan", ["dupl"]),
   ("Egyptian_Hieroglyphs", ["egyp"]), ("Elbasan", ["elba"]), ("Elymaic", ["elym"]),
   ("Ethiopic", ["ethi"]), ("Garay", ["gara"]), ("Georgian", ["geor"]), ("Glagolitic", ["glag"]),
   ("Gothic", ["goth"]), ("Grantha", ["gran"]), ("Greek", ["grek"]), ("Gujarati", ["gujr"]),
   ("Gunjala_Gondi", ["gong"]), ("Gurmukhi", ["guru"]), ("Gurung_Khema", ["gukh"]),
   ("Han", ["hani"]), ("Hangul", ["hang"]), ("Hanifi_Rohingya", ["rohg"]), ("Hanunoo", ["hano"]),
   ("Hatran", ["hatr"]), ("Hebrew", ["hebr"]), ("Hiragana", ["hira"]),
   ("Imperial_Aramaic", ["armi"]), ("Inherited", ["zinh", "qaai"]),
   ("Inscriptional_Pahlavi", ["phli"]), ("Inscriptional_Parthian", ["prti"]),
   ("Javanese", ["java"]), ("Kaithi", ["kthi"]), ("Kannada", ["knda"]), ("Katakana", ["kana"]),
   ("Kawi", []), ("Kayah_Li", ["kali"]), ("Kharoshthi", ["khar"]),
   ("Khitan_Small_Script", ["kits"]), ("Khmer", ["khmr"]), ("Khojki", ["khoj"]),
   ("Khudawadi", ["sind"]), ("Kirat_Rai", ["krai"]), ("Lao", ["laoo"]), ("Latin", ["latn"]),
   ("Lepcha", ["lepc"]), ("Limbu", ["limb"]), ("Linear_A", ["lina"]), ("Linear_B", ["linb"]),
   ("Lisu", []), ("Lycian", ["lyci"]), ("Lydian", ["lydi"]), ("Mahajani", ["mahj"]),
   ("Makasar", ["maka"]), ("Malayalam", ["mlym"]), ("Mandaic", ["mand"]), ("Manichaean", ["mani"]),
   ("Marchen", ["marc"]), ("Masaram_Gondi", ["gonm"]), ("Medefaidrin", ["medf"]),
   ("Meetei_Mayek", ["mtei"]), ("Mende_Kikakui", ["mend"]), ("Meroitic_Cursive", ["merc"]),
   ("Meroitic_Hieroglyphs", ["mero"]), ("Miao", ["plrd"]), ("Modi", []), ("Mongolian", ["mong"]),
   ("Mro", ["mroo"]), ("Multani", ["mult"]), ("Myanmar", ["mymr"]), ("Nabataean", ["nbat"]),
   ("Nag_Mundari", ["nagm"]), ("Nandinagari", ["nand"]), ("Newa", []), ("New_Tai_Lue", ["talu"]),
   ("Nko", ["nkoo"]), ("Nushu", ["nshu"]), ("Nyiakeng_Puachue_Hmong", ["hmnp"]),
   ("Ogham", ["ogam"]), ("Ol_Chiki", ["olck"]), ("Old_Hungarian", ["hung"]),
   ("Old_Italic", ["ital"]), ("Old_North_Arabian", ["narb"]), ("Old_Permic", ["perm"]),
   ("Old_Persian", ["xpeo"]), ("Old_Sogdian", ["sogo"]), ("Old_South_Arabian", ["sarb"]),
   ("Old_Turkic", ["orkh"]), ("Old_Uyghur", ["ougr"]), ("Ol_Onal", ["onao"]), ("Oriya", ["orya"]),
   ("Osage", ["osge"]), ("Osmanya", ["osma"]), ("Pahawh_Hmong", ["hmng"]), ("Palmyrene", ["palm"]),
   ("Pau_Cin_Hau", ["pauc"]), ("Phags_Pa", ["phag"]), ("Phoenician", ["phnx"]),
   ("Psalter_Pahlavi", ["phlp"]), ("Rejang", ["rjng"]), ("Runic", ["runr"]),
   ("Samaritan", ["samr"]), ("Saurashtra", ["saur"]), ("Sharada", ["shrd"]), ("Shavian", ["shaw"]),
   ("Siddham", ["sidd"]), ("SignWriting", ["sgnw"]), ("Sinhala", ["sinh"]), ("Sogdian", ["sogd"]),
   ("Sora_Sompeng", ["sora"]), ("Soyombo", ["soyo"]), ("Sundanese", ["sund"]),
   ("Sunuwar", ["sunu"]), ("Syloti_Nagri", ["sylo"]), ("Syriac", ["syrc"]), ("Tagalog", ["tglg"]),
   ("Tagbanwa", ["tagb"]), ("Tai_Le", ["tale"]), ("Tai_Tham", ["lana"]), ("Tai_Viet", ["tavt"]),
   ("Takri", ["takr"]), ("Tamil", ["taml"]), ("Tangsa", ["tnsa"]), ("Tangut", ["tang"]),
   ("Telugu", ["telu"]), ("Thaana", ["thaa"]), ("Thai", []), ("Tibetan", ["tibt"]),
   ("Tifinagh", ["tfng"]), ("Tirhuta", ["tirh"]), ("Todhri", ["todr"]), ("Toto", []),
   ("Tulu_Tigalari", ["tutg"]), ("Ugaritic", ["ugar"]), ("Unknown", ["zzzz"]), ("Vai", ["vaii"]),
   ("Vithkuqi", ["vith"]), ("Wancho", ["wcho"]), ("Warang_Citi", ["wara"]), ("Yezidi", ["yezi"]),
   ("Yi", ["yiii"]), ("Zanabazar_Square", ["zanb"])]

/-- Values of the grapheme break. -/
def graphemeBreakNames : List (String × List String) :=
  [("Control", ["cn"]), ("CR", []), ("E_Base", ["eb"]), ("E_Base_GAZ", ["ebg"]),
   ("E_Modifier", ["em"]), ("Extend", ["ex"]), ("Glue_After_Zwj", ["gaz"]), ("L", []), ("LF", []),
   ("LV", []), ("LVT", []), ("Other", ["xx"]), ("Prepend", ["pp"]), ("Regional_Indicator", ["ri"]),
   ("SpacingMark", ["sm"]), ("T", []), ("V", []), ("ZWJ", [])]

/-- Values of the word break. -/
def wordBreakNames : List (String × List String) :=
  [("ALetter", ["le"]), ("CR", []), ("Double_Quote", ["dq"]), ("E_Base", ["eb"]),
   ("E_Base_GAZ", ["ebg"]), ("E_Modifier", ["em"]), ("Extend", []), ("ExtendNumLet", ["ex"]),
   ("Format", ["fo"]), ("Glue_After_Zwj", ["gaz"]), ("Hebrew_Letter", ["hl"]), ("Katakana", ["ka"]),
   ("LF", []), ("MidLetter", ["ml"]), ("MidNum", ["mn"]), ("MidNumLet", ["mb"]),
   ("Newline", ["nl"]), ("Numeric", ["nu"]), ("Other", ["xx"]), ("Regional_Indicator", ["ri"]),
   ("Single_Quote", ["sq"]), ("WSegSpace", []), ("ZWJ", [])]

/-- Values of the sentence break. -/
def sentenceBreakNames : List (String × List String) :=
  [("ATerm", ["at"]), ("Close", ["cl"]), ("CR", []), ("Extend", ["ex"]), ("Format", ["fo"]),
   ("LF", []), ("Lower", ["lo"]), ("Numeric", ["nu"]), ("OLetter", ["le"]), ("Other", ["xx"]),
   ("SContinue", ["sc"]), ("Sep", ["se"]), ("Sp", []), ("STerm", ["st"]), ("Upper", ["up"])]

/-- Versions that assigned characters. -/
def ageNames : List (String × List String) :=
  [("Unassigned", ["na"]), ("V10_0", ["10.0"]), ("V1_1", ["1.1"]), ("V11_0", ["11.0"]),
   ("V12_0", ["12.0"]), ("V12_1", ["12.1"]), ("V13_0", ["13.0"]), ("V14_0", ["14.0"]),
   ("V15_0", ["15.0"]), ("V15_1", ["15.1"]), ("V16_0", ["16.0"]), ("V2_0", ["2.0"]),
   ("V2_1", ["2.1"]), ("V3_0", ["3.0"]), ("V3_1", ["3.1"]), ("V3_2", ["3.2"]), ("V4_0", ["4.0"]),
   ("V4_1", ["4.1"]), ("V5_0", ["5.0"]), ("V5_1", ["5.1"]), ("V5_2", ["5.2"]), ("V6_0", ["6.0"]),
   ("V6_1", ["6.1"]), ("V6_2", ["6.2"]), ("V6_3", ["6.3"]), ("V7_0", ["7.0"]), ("V8_0", ["8.0"]),
   ("V9_0", ["9.0"])]

/-- Loose form of a name: ASCII only, lower case, without spaces, hyphens, underscores and a leading
"is". What would be left as a lone "c" keeps the prefix, for it names another property. -/
def looseName (cs : List Char) : String :=
  let bare (cs : List Char) := (cs.filter fun c => c.toNat < 0x80 && c ≠ ' ' && c ≠ '_' && c ≠ '-').map
    Char.toLower
  match cs with
  | i :: s :: rest =>
    if (i = 'i' ∨ i = 'I') ∧ (s = 's' ∨ s = 'S') then
      let r := bare rest
      String.ofList (if r = ['c'] then ['i', 's', 'c'] else r)
    else String.ofList (bare cs)
  | _ => String.ofList (bare cs)

/-- The long name for a name in loose form. -/
def longName? (names : List (String × List String)) (loose : String) : Option String :=
  (names.find? fun row => looseName row.1.toList = loose || row.2.contains loose).map Prod.fst

end MockSchema.Unicode
