/-! Code points whose set of scripts is not just their own script. -/

namespace MockSchema.Unicode

/-- Code points used with several scripts, or with one other than their own, and those scripts. -/
def scriptExtensionTable : List (List (Nat × Nat) × List String) := [
  ([(0xB7, 0xB7)],
   ["Avestan", "Carian", "Coptic", "Duployan", "Elbasan", "Georgian", "Glagolitic", "Gothic",
    "Greek", "Gunjala_Gondi", "Han", "Latin", "Lydian", "Mahajani", "Old_Permic", "Shavian"]),
  ([(0x2BC, 0x2BC)],
   ["Bengali", "Cyrillic", "Devanagari", "Latin", "Lisu", "Thai", "Toto"]),
  ([(0x2C7, 0x2C7), (0x2C9, 0x2CB), (0x2D9, 0x2D9)],
   ["Bopomofo", "Latin"]),
  ([(0x2CD, 0x2CD)],
   ["Latin", "Lisu"]),
  ([(0x2D7, 0x2D7)],
   ["Latin", "Thai"]),
  ([(0x300, 0x300)],
   ["Cherokee", "Coptic", "Cyrillic", "Greek", "Latin", "Old_Permic", "Sunuwar", "Tai_Le"]),
  ([(0x301, 0x301)],
   ["Cherokee", "Cyrillic", "Greek", "Latin", "Osage", "Sunuwar", "Tai_Le", "Todhri"]),
  ([(0x302, 0x302)],
   ["Cherokee", "Cyrillic", "Latin", "Tifinagh"]),
  ([(0x303, 0x303)],
   ["Glagolitic", "Latin", "Sunuwar", "Syriac", "Thai"]),
  ([(0x304, 0x304)],
   ["Caucasian_Albanian", "Cherokee", "Coptic", "Cyrillic", "Gothic", "Greek", "Latin", "Osage",
    "Syriac", "Tifinagh", "Todhri"]),
  ([(0x305, 0x305)],
   ["Coptic", "Elbasan", "Glagolitic", "Gothic", "Katakana", "Latin"]),
  ([(0x306, 0x306)],
   ["Cyrillic", "Greek", "Latin", "Old_Permic", "Tifinagh"]),
  ([(0x307, 0x307)],
   ["Coptic", "Duployan", "Hebrew", "Latin", "Old_Permic", "Syriac", "Tai_Le", "Tifinagh",
    "Todhri"]),
  ([(0x308, 0x308)],
   ["Armenian", "Cyrillic", "Duployan", "Gothic", "Greek", "Hebrew", "Latin", "Old_Permic",
    "Syriac", "Tai_Le", "Tifinagh"]),
  ([(0x309, 0x309)],
   ["Latin", "Tifinagh"]),
  ([(0x30A, 0x30A)],
   ["Duployan", "Latin", "Syriac"]),
  ([(0x30B, 0x30B)],
   ["Cherokee", "Cyrillic", "Latin", "Osage"]),
  ([(0x30C, 0x30C)],
   ["Cherokee", "Latin", "Tai_Le"]),
  ([(0x30D, 0x30D), (0x310, 0x310)],
   ["Latin", "Sunuwar"]),
  ([(0x30E, 0x30E)],
   ["Ethiopic", "Latin"]),
  ([(0x311, 0x311)],
   ["Cyrillic", "Latin", "Todhri"]),
  ([(0x313, 0x313)],
   ["Greek", "Latin", "Old_Permic", "Todhri"]),
  ([(0x323, 0x323)],
   ["Cherokee", "Duployan", "Katakana", "Latin", "Syriac", "Tifinagh"]),
  ([(0x324, 0x324)],
   ["Cherokee", "Duployan", "Latin", "Syriac"]),
  ([(0x325, 0x325), (0x32E, 0x32E)],
   ["Latin", "Syriac"]),
  ([(0x32D, 0x32D)],
   ["Latin", "Sunuwar", "Syriac"]),
  ([(0x330, 0x330)],
   ["Cherokee", "Latin", "Syriac"]),
  ([(0x331, 0x331)],
   ["Caucasian_Albanian", "Cherokee", "Gothic", "Latin", "Sunuwar", "Syriac", "Thai"]),
  ([(0x342, 0x342), (0x345, 0x345), (0x1DC0, 0x1DC1)],
   ["Greek"]),
  ([(0x358, 0x358)],
   ["Latin", "Osage"]),
  ([(0x35E, 0x35E)],
   ["Caucasian_Albanian", "Latin", "Todhri"]),
  ([(0x363, 0x36F)],
   ["Latin"]),
  ([(0x374, 0x375)],
   ["Coptic", "Greek"]),
  ([(0x483, 0x483)],
   ["Cyrillic", "Old_Permic"]),
  ([(0x484, 0x484), (0x487, 0x487), (0x2E43, 0x2E43), (0xA66F, 0xA66F)],
   ["Cyrillic", "Glagolitic"]),
  ([(0x485, 0x486)],
   ["Cyrillic", "Latin"]),
  ([(0x589, 0x589)],
   ["Armenian", "Georgian", "Glagolitic"]),
  ([(0x60C, 0x60C), (0x61B, 0x61B)],
   ["Arabic", "Garay", "Hanifi_Rohingya", "Nko", "Syriac", "Thaana", "Yezidi"]),
  ([(0x61C, 0x61C)],
   ["Arabic", "Syriac", "Thaana"]),
  ([(0x61F, 0x61F)],
   ["Adlam", "Arabic", "Garay", "Hanifi_Rohingya", "Nko", "Syriac", "Thaana", "Yezidi"]),
  ([(0x640, 0x640)],
   ["Adlam", "Arabic", "Hanifi_Rohingya", "Mandaic", "Manichaean", "Old_Uyghur",
    "Psalter_Pahlavi", "Sogdian", "Syriac"]),
  ([(0x64B, 0x655), (0x670, 0x670)],
   ["Arabic", "Syriac"]),
  ([(0x660, 0x669)],
   ["Arabic", "Thaana", "Yezidi"]),
  ([(0x6D4, 0x6D4)],
   ["Arabic", "Hanifi_Rohingya"]),
  ([(0x951, 0x951)],
   ["Bengali", "Devanagari", "Grantha", "Gujarati", "Gurmukhi", "Kannada", "Latin", "Malayalam",
    "Nandinagari", "Newa", "Oriya", "Sharada", "Tamil", "Telugu", "Tirhuta"]),
  ([(0x952, 0x952)],
   ["Bengali", "Devanagari", "Grantha", "Gujarati", "Gurmukhi", "Kannada", "Latin", "Malayalam",
    "Newa", "Oriya", "Tamil", "Telugu", "Tirhuta"]),
  ([(0x964, 0x964)],
   ["Bengali", "Devanagari", "Dogra", "Grantha", "Gujarati", "Gunjala_Gondi", "Gurmukhi",
    "Kannada", "Khudawadi", "Mahajani", "Malayalam", "Masaram_Gondi", "Nandinagari", "Ol_Onal",
    "Oriya", "Sinhala", "Syloti_Nagri", "Takri", "Tamil", "Telugu", "Tirhuta"]),
  ([(0x965, 0x965)],
   ["Bengali", "Devanagari", "Dogra", "Grantha", "Gujarati", "Gunjala_Gondi", "Gurmukhi",
    "Gurung_Khema", "Kannada", "Khudawadi", "Limbu", "Mahajani", "Malayalam", "Masaram_Gondi",
    "Nandinagari", "Ol_Onal", "Oriya", "Sinhala", "Syloti_Nagri", "Takri", "Tamil", "Telugu",
    "Tirhuta"]),
  ([(0x966, 0x96F)],
   ["Devanagari", "Dogra", "Kaithi", "Mahajani"]),
  ([(0x9E6, 0x9EF)],
   ["Bengali", "Chakma", "Syloti_Nagri"]),
  ([(0xA66, 0xA6F)],
   ["Gurmukhi", "Multani"]),
  ([(0xAE6, 0xAEF)],
   ["Gujarati", "Khojki"]),
  ([(0xBE6, 0xBF3), (0x11301, 0x11301), (0x11303, 0x11303), (0x1133B, 0x1133C), (0x11FD0, 0x11FD1),
    (0x11FD3, 0x11FD3)],
   ["Grantha", "Tamil"]),
  ([(0xCE6, 0xCEF)],
   ["Kannada", "Nandinagari", "Tulu_Tigalari"]),
  ([(0x1040, 0x1049)],
   ["Chakma", "Myanmar", "Tai_Le"]),
  ([(0x10FB, 0x10FB)],
   ["Georgian", "Glagolitic", "Latin"]),
  ([(0x16EB, 0x16ED)],
   ["Runic"]),
  ([(0x1735, 0x1736)],
   ["Buhid", "Hanunoo", "Tagalog", "Tagbanwa"]),
  ([(0x1802, 0x1803), (0x1805, 0x1805)],
   ["Mongolian", "Phags_Pa"]),
  ([(0x1CD0, 0x1CD0), (0x1CD2, 0x1CD2)],
   ["Bengali", "Devanagari", "Grantha", "Kannada"]),
  ([(0x1CD1, 0x1CD1), (0x1CD4, 0x1CD4), (0x1CDB, 0x1CDB), (0x1CDE, 0x1CDF), (0x1CE3, 0x1CE8),
    (0x1CEC, 0x1CEC), (0x1CEE, 0x1CF1)],
   ["Devanagari"]),
  ([(0x1CD3, 0x1CD3)],
   ["Devanagari", "Grantha", "Kannada"]),
  ([(0x1CD5, 0x1CD5)],
   ["Bengali", "Devanagari", "Newa", "Telugu", "Tirhuta"]),
  ([(0x1CD6, 0x1CD6)],
   ["Bengali", "Devanagari", "Telugu"]),
  ([(0x1CD7, 0x1CD7)],
   ["Devanagari", "Newa", "Sharada"]),
  ([(0x1CD8, 0x1CD8)],
   ["Bengali", "Devanagari", "Newa", "Telugu"]),
  ([(0x1CD9, 0x1CD9), (0x1CDC, 0x1CDD), (0x1CE0, 0x1CE0)],
   ["Devanagari", "Sharada"]),
  ([(0x1CDA, 0x1CDA)],
   ["Devanagari", "Kannada", "Malayalam", "Oriya", "Tamil", "Telugu"]),
  ([(0x1CE1, 0x1CE1), (0x1CF5, 0x1CF6)],
   ["Bengali", "Devanagari"]),
  ([(0x1CE2, 0x1CE2)],
   ["Devanagari", "Newa", "Tirhuta"]),
  ([(0x1CE9, 0x1CE9)],
   ["Devanagari", "Nandinagari", "Newa"]),
  ([(0x1CEA, 0x1CEA)],
   ["Bengali", "Devanagari", "Sharada"]),
  ([(0x1CEB, 0x1CEB)],
   ["Devanagari", "Newa"]),
  ([(0x1CED, 0x1CED)],
   ["Bengali", "Devanagari", "Newa", "Sharada"]),
  ([(0x1CF2, 0x1CF2)],
   ["Bengali", "Devanagari", "Grantha", "Kannada", "Malayalam", "Nandinagari", "Oriya", "Sinhala",
    "Telugu", "Tirhuta", "Tulu_Tigalari"]),
  ([(0x1CF3, 0x1CF3), (0x1CF8, 0x1CF9)],
   ["Devanagari", "Grantha"]),
  ([(0x1CF4, 0x1CF4)],
   ["Devanagari", "Grantha", "Kannada", "Tulu_Tigalari"]),
  ([(0x1CF7, 0x1CF7)],
   ["Bengali"]),
  ([(0x1CFA, 0x1CFA)],
   ["Nandinagari"]),
  ([(0x1DF8, 0x1DF8)],
   ["Cyrillic", "Latin", "Syriac"]),
  ([(0x1DFA, 0x1DFA)],
   ["Syriac"]),
  ([(0x202F, 0x202F)],
   ["Latin", "Mongolian", "Phags_Pa"]),
  ([(0x204F, 0x204F)],
   ["Adlam", "Arabic"]),
  ([(0x205A, 0x205A)],
   ["Carian", "Georgian", "Glagolitic", "Lycian", "Old_Hungarian", "Old_Turkic"]),
  ([(0x205D, 0x205D)],
   ["Carian", "Greek", "Meroitic_Hieroglyphs", "Old_Hungarian"]),
  ([(0x20F0, 0x20F0)],
   ["Devanagari", "Grantha", "Latin"]),
  ([(0x2E17, 0x2E17)],
   ["Coptic", "Latin"]),
  ([(0x2E30, 0x2E30)],
   ["Avestan", "Old_Turkic"]),
  ([(0x2E31, 0x2E31)],
   ["Avestan", "Carian", "Georgian", "Kaithi", "Lydian", "Old_Hungarian", "Samaritan"]),
  ([(0x2E3C, 0x2E3C), (0x1BCA0, 0x1BCA3)],
   ["Duployan"]),
  ([(0x2E41, 0x2E41)],
   ["Adlam", "Arabic", "Old_Hungarian"]),
  ([(0x2FF0, 0x2FFF), (0x31EF, 0x31EF)],
   ["Han", "Tangut"]),
  ([(0x3001, 0x3001)],
   ["Bopomofo", "Han", "Hangul", "Hiragana", "Katakana", "Mongolian", "Yi"]),
  ([(0x3002, 0x3002)],
   ["Bopomofo", "Han", "Hangul", "Hiragana", "Katakana", "Mongolian", "Phags_Pa", "Yi"]),
  ([(0x3003, 0x3003), (0x3013, 0x3013), (0x301C, 0x301F), (0x3030, 0x3030), (0x3037, 0x3037),
    (0xFE45, 0xFE46)],
   ["Bopomofo", "Han", "Hangul", "Hiragana", "Katakana"]),
  ([(0x3006, 0x3006), (0x303E, 0x303F), (0x3190, 0x319F), (0x31C0, 0x31E5), (0x3220, 0x3247),
    (0x3280, 0x32B0), (0x32C0, 0x32CB), (0x32FF, 0x32FF), (0x3358, 0x3370), (0x337B, 0x337F),
    (0x33E0, 0x33FE), (0x1D360, 0x1D371), (0x1F250, 0x1F251)],
   ["Han"]),
  ([(0x3008, 0x3009)],
   ["Bopomofo", "Han", "Hangul", "Hiragana", "Katakana", "Mongolian", "Tibetan", "Yi"]),
  ([(0x300A, 0x300B)],
   ["Bopomofo", "Han", "Hangul", "Hiragana", "Katakana", "Lisu", "Mongolian", "Tibetan", "Yi"]),
  ([(0x300C, 0x3011), (0x3014, 0x301B), (0x30FB, 0x30FB), (0xFF61, 0xFF65)],
   ["Bopomofo", "Han", "Hangul", "Hiragana", "Katakana", "Yi"]),
  ([(0x302A, 0x302D)],
   ["Bopomofo", "Han"]),
  ([(0x3031, 0x3035), (0x3099, 0x309C), (0x30A0, 0x30A0), (0x30FC, 0x30FC), (0xFF70, 0xFF70),
    (0xFF9E, 0xFF9F)],
   ["Hiragana", "Katakana"]),
  ([(0x303C, 0x303D)],
   ["Han", "Hiragana", "Katakana"]),
  ([(0xA700, 0xA707)],
   ["Han", "Latin"]),
  ([(0xA830, 0xA832)],
   ["Devanagari", "Dogra", "Gujarati", "Gurmukhi", "Kaithi", "Kannada", "Khojki", "Khudawadi",
    "Mahajani", "Malayalam", "Modi", "Nandinagari", "Sharada", "Takri", "Tirhuta", "Tulu_Tigalari"]),
  ([(0xA833, 0xA835)],
   ["Devanagari", "Dogra", "Gujarati", "Gurmukhi", "Kaithi", "Kannada", "Khojki", "Khudawadi",
    "Mahajani", "Modi", "Nandinagari", "Sharada", "Takri", "Tirhuta", "Tulu_Tigalari"]),
  ([(0xA836, 0xA837), (0xA839, 0xA839)],
   ["Devanagari", "Dogra", "Gujarati", "Gurmukhi", "Kaithi", "Khojki", "Khudawadi", "Mahajani",
    "Modi", "Takri", "Tirhuta"]),
  ([(0xA838, 0xA838)],
   ["Devanagari", "Dogra", "Gujarati", "Gurmukhi", "Kaithi", "Khojki", "Khudawadi", "Mahajani",
    "Modi", "Sharada", "Takri", "Tirhuta"]),
  ([(0xA8F1, 0xA8F1)],
   ["Bengali", "Devanagari", "Tulu_Tigalari"]),
  ([(0xA8F3, 0xA8F3)],
   ["Devanagari", "Tamil"]),
  ([(0xA92E, 0xA92E)],
   ["Kayah_Li", "Latin", "Myanmar"]),
  ([(0xA9CF, 0xA9CF)],
   ["Buginese", "Javanese"]),
  ([(0xFD3E, 0xFD3F)],
   ["Arabic", "Nko"]),
  ([(0xFDF2, 0xFDF2), (0xFDFD, 0xFDFD)],
   ["Arabic", "Thaana"]),
  ([(0x10100, 0x10101)],
   ["Cypriot", "Cypro_Minoan", "Linear_B"]),
  ([(0x10102, 0x10102), (0x10137, 0x1013F)],
   ["Cypriot", "Linear_B"]),
  ([(0x10107, 0x10133)],
   ["Cypriot", "Linear_A", "Linear_B"]),
  ([(0x102E0, 0x102FB)],
   ["Arabic", "Coptic"]),
  ([(0x10AF2, 0x10AF2)],
   ["Manichaean", "Old_Uyghur"])
]

end MockSchema.Unicode
