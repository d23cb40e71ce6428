import WideColumn.Text.Basic

/-!
# Character names

The names of common characters in the Unicode standard, by which one error handler writes what a
charset cannot hold. Ideographs and Hangul syllables are named by rule. A code point whose name is
not listed is written by its number instead.
-/
namespace WideColumn.CodePoint

/-- Names of Latin letters and signs. -/
def latinNames : List (Nat × String) := [
  (0xA0, "NO-BREAK SPACE"), (0xA1, "INVERTED EXCLAMATION MARK"), (0xA2, "CENT SIGN"),
  (0xA3, "POUND SIGN"), (0xA4, "CURRENCY SIGN"), (0xA5, "YEN SIGN"), (0xA6, "BROKEN BAR"),
  (0xA7, "SECTION SIGN"), (0xA8, "DIAERESIS"), (0xA9, "COPYRIGHT SIGN"),
  (0xAA, "FEMININE ORDINAL INDICATOR"), (0xAB, "LEFT-POINTING DOUBLE ANGLE QUOTATION MARK"),
  (0xAC, "NOT SIGN"), (0xAD, "SOFT HYPHEN"), (0xAE, "REGISTERED SIGN"), (0xAF, "MACRON"),
  (0xB0, "DEGREE SIGN"), (0xB1, "PLUS-MINUS SIGN"), (0xB2, "SUPERSCRIPT TWO"),
  (0xB3, "SUPERSCRIPT THREE"), (0xB4, "ACUTE ACCENT"), (0xB5, "MICRO SIGN"),
  (0xB6, "PILCROW SIGN"), (0xB7, "MIDDLE DOT"), (0xB8, "CEDILLA"), (0xB9, "SUPERSCRIPT ONE"),
  (0xBA, "MASCULINE ORDINAL INDICATOR"), (0xBB, "RIGHT-POINTING DOUBLE ANGLE QUOTATION MARK"),
  (0xBC, "VULGAR FRACTION ONE QUARTER"), (0xBD, "VULGAR FRACTION ONE HALF"),
  (0xBE, "VULGAR FRACTION THREE QUARTERS"), (0xBF, "INVERTED QUESTION MARK"),
  (0xC0, "LATIN CAPITAL LETTER A WITH GRAVE"), (0xC1, "LATIN CAPITAL LETTER A WITH ACUTE"),
  (0xC2, "LATIN CAPITAL LETTER A WITH CIRCUMFLEX"), (0xC3, "LATIN CAPITAL LETTER A WITH TILDE"),
  (0xC4, "LATIN CAPITAL LETTER A WITH DIAERESIS"),
  (0xC5, "LATIN CAPITAL LETTER A WITH RING ABOVE"), (0xC6, "LATIN CAPITAL LETTER AE"),
  (0xC7, "LATIN CAPITAL LETTER C WITH CEDILLA"), (0xC8, "LATIN CAPITAL LETTER E WITH GRAVE"),
  (0xC9, "LATIN CAPITAL LETTER E WITH ACUTE"), (0xCA, "LATIN CAPITAL LETTER E WITH CIRCUMFLEX"),
  (0xCB, "LATIN CAPITAL LETTER E WITH DIAERESIS"), (0xCC, "LATIN CAPITAL LETTER I WITH GRAVE"),
  (0xCD, "LATIN CAPITAL LETTER I WITH ACUTE"), (0xCE, "LATIN CAPITAL LETTER I WITH CIRCUMFLEX"),
  (0xCF, "LATIN CAPITAL LETTER I WITH DIAERESIS"), (0xD0, "LATIN CAPITAL LETTER ETH"),
  (0xD1, "LATIN CAPITAL LETTER N WITH TILDE"), (0xD2, "LATIN CAPITAL LETTER O WITH GRAVE"),
  (0xD3, "LATIN CAPITAL LETTER O WITH ACUTE"), (0xD4, "LATIN CAPITAL LETTER O WITH CIRCUMFLEX"),
  (0xD5, "LATIN CAPITAL LETTER O WITH TILDE"), (0xD6, "LATIN CAPITAL LETTER O WITH DIAERESIS"),
  (0xD7, "MULTIPLICATION SIGN"), (0xD8, "LATIN CAPITAL LETTER O WITH STROKE"),
  (0xD9, "LATIN CAPITAL LETTER U WITH GRAVE"), (0xDA, "LATIN CAPITAL LETTER U WITH ACUTE"),
  (0xDB, "LATIN CAPITAL LETTER U WITH CIRCUMFLEX"),
  (0xDC, "LATIN CAPITAL LETTER U WITH DIAERESIS"), (0xDD, "LATIN CAPITAL LETTER Y WITH ACUTE"),
  (0xDE, "LATIN CAPITAL LETTER THORN"), (0xDF, "LATIN SMALL LETTER SHARP S"),
  (0xE0, "LATIN SMALL LETTER A WITH GRAVE"), (0xE1, "LATIN SMALL LETTER A WITH ACUTE"),
  (0xE2, "LATIN SMALL LETTER A WITH CIRCUMFLEX"), (0xE3, "LATIN SMALL LETTER A WITH TILDE"),
  (0xE4, "LATIN SMALL LETTER A WITH DIAERESIS"), (0xE5, "LATIN SMALL LETTER A WITH RING ABOVE"),
  (0xE6, "LATIN SMALL LETTER AE"), (0xE7, "LATIN SMALL LETTER C WITH CEDILLA"),
  (0xE8, "LATIN SMALL LETTER E WITH GRAVE"), (0xE9, "LATIN SMALL LETTER E WITH ACUTE"),
  (0xEA, "LATIN SMALL LETTER E WITH CIRCUMFLEX"), (0xEB, "LATIN SMALL LETTER E WITH DIAERESIS"),
  (0xEC, "LATIN SMALL LETTER I WITH GRAVE"), (0xED, "LATIN SMALL LETTER I WITH ACUTE"),
  (0xEE, "LATIN SMALL LETTER I WITH CIRCUMFLEX"), (0xEF, "LATIN SMALL LETTER I WITH DIAERESIS"),
  (0xF0, "LATIN SMALL LETTER ETH"), (0xF1, "LATIN SMALL LETTER N WITH TILDE"),
  (0xF2, "LATIN SMALL LETTER O WITH GRAVE"), (0xF3, "LATIN SMALL LETTER O WITH ACUTE"),
  (0xF4, "LATIN SMALL LETTER O WITH CIRCUMFLEX"), (0xF5, "LATIN SMALL LETTER O WITH TILDE"),
  (0xF6, "LATIN SMALL LETTER O WITH DIAERESIS"), (0xF7, "DIVISION SIGN"),
  (0xF8, "LATIN SMALL LETTER O WITH STROKE"), (0xF9, "LATIN SMALL LETTER U WITH GRAVE"),
  (0xFA, "LATIN SMALL LETTER U WITH ACUTE"), (0xFB, "LATIN SMALL LETTER U WITH CIRCUMFLEX"),
  (0xFC, "LATIN SMALL LETTER U WITH DIAERESIS"), (0xFD, "LATIN SMALL LETTER Y WITH ACUTE"),
  (0xFE, "LATIN SMALL LETTER THORN"), (0xFF, "LATIN SMALL LETTER Y WITH DIAERESIS"),
  (0x100, "LATIN CAPITAL LETTER A WITH MACRON"), (0x101, "LATIN SMALL LETTER A WITH MACRON"),
  (0x102, "LATIN CAPITAL LETTER A WITH BREVE"), (0x103, "LATIN SMALL LETTER A WITH BREVE"),
  (0x104, "LATIN CAPITAL LETTER A WITH OGONEK"), (0x105, "LATIN SMALL LETTER A WITH OGONEK"),
  (0x106, "LATIN CAPITAL LETTER C WITH ACUTE"), (0x107, "LATIN SMALL LETTER C WITH ACUTE"),
  (0x108, "LATIN CAPITAL LETTER C WITH CIRCUMFLEX"),
  (0x109, "LATIN SMALL LETTER C WITH CIRCUMFLEX"),
  (0x10A, "LATIN CAPITAL LETTER C WITH DOT ABOVE"),
  (0x10B, "LATIN SMALL LETTER C WITH DOT ABOVE"), (0x10C, "LATIN CAPITAL LETTER C WITH CARON"),
  (0x10D, "LATIN SMALL LETTER C WITH CARON"), (0x10E, "LATIN CAPITAL LETTER D WITH CARON"),
  (0x10F, "LATIN SMALL LETTER D WITH CARON"), (0x110, "LATIN CAPITAL LETTER D WITH STROKE"),
  (0x111, "LATIN SMALL LETTER D WITH STROKE"), (0x112, "LATIN CAPITAL LETTER E WITH MACRON"),
  (0x113, "LATIN SMALL LETTER E WITH MACRON"), (0x114, "LATIN CAPITAL LETTER E WITH BREVE"),
  (0x115, "LATIN SMALL LETTER E WITH BREVE"), (0x116, "LATIN CAPITAL LETTER E WITH DOT ABOVE"),
  (0x117, "LATIN SMALL LETTER E WITH DOT ABOVE"), (0x118, "LATIN CAPITAL LETTER E WITH OGONEK"),
  (0x119, "LATIN SMALL LETTER E WITH OGONEK"), (0x11A, "LATIN CAPITAL LETTER E WITH CARON"),
  (0x11B, "LATIN SMALL LETTER E WITH CARON"), (0x11C, "LATIN CAPITAL LETTER G WITH CIRCUMFLEX"),
  (0x11D, "LATIN SMALL LETTER G WITH CIRCUMFLEX"), (0x11E, "LATIN CAPITAL LETTER G WITH BREVE"),
  (0x11F, "LATIN SMALL LETTER G WITH BREVE"), (0x120, "LATIN CAPITAL LETTER G WITH DOT ABOVE"),
  (0x121, "LATIN SMALL LETTER G WITH DOT ABOVE"), (0x122, "LATIN CAPITAL LETTER G WITH CEDILLA"),
  (0x123, "LATIN SMALL LETTER G WITH CEDILLA"), (0x124, "LATIN CAPITAL LETTER H WITH CIRCUMFLEX"),
  (0x125, "LATIN SMALL LETTER H WITH CIRCUMFLEX"), (0x126, "LATIN CAPITAL LETTER H WITH STROKE"),
  (0x127, "LATIN SMALL LETTER H WITH STROKE"), (0x128, "LATIN CAPITAL LETTER I WITH TILDE"),
  (0x129, "LATIN SMALL LETTER I WITH TILDE"), (0x12A, "LATIN CAPITAL LETTER I WITH MACRON"),
  (0x12B, "LATIN SMALL LETTER I WITH MACRON"), (0x12C, "LATIN CAPITAL LETTER I WITH BREVE"),
  (0x12D, "LATIN SMALL LETTER I WITH BREVE"), (0x12E, "LATIN CAPITAL LETTER I WITH OGONEK"),
  (0x12F, "LATIN SMALL LETTER I WITH OGONEK"), (0x130, "LATIN CAPITAL LETTER I WITH DOT ABOVE"),
  (0x131, "LATIN SMALL LETTER DOTLESS I"), (0x132, "LATIN CAPITAL LIGATURE IJ"),
  (0x133, "LATIN SMALL LIGATURE IJ"), (0x134, "LATIN CAPITAL LETTER J WITH CIRCUMFLEX"),
  (0x135, "LATIN SMALL LETTER J WITH CIRCUMFLEX"), (0x136, "LATIN CAPITAL LETTER K WITH CEDILLA"),
  (0x137, "LATIN SMALL LETTER K WITH CEDILLA"), (0x138, "LATIN SMALL LETTER KRA"),
  (0x139, "LATIN CAPITAL LETTER L WITH ACUTE"), (0x13A, "LATIN SMALL LETTER L WITH ACUTE"),
  (0x13B, "LATIN CAPITAL LETTER L WITH CEDILLA"), (0x13C, "LATIN SMALL LETTER L WITH CEDILLA"),
  (0x13D, "LATIN CAPITAL LETTER L WITH CARON"), (0x13E, "LATIN SMALL LETTER L WITH CARON"),
  (0x13F, "LATIN CAPITAL LETTER L WITH MIDDLE DOT"),
  (0x140, "LATIN SMALL LETTER L WITH MIDDLE DOT"), (0x141, "LATIN CAPITAL LETTER L WITH STROKE"),
  (0x142, "LATIN SMALL LETTER L WITH STROKE"), (0x143, "LATIN CAPITAL LETTER N WITH ACUTE"),
  (0x144, "LATIN SMALL LETTER N WITH ACUTE"), (0x145, "LATIN CAPITAL LETTER N WITH CEDILLA"),
  (0x146, "LATIN SMALL LETTER N WITH CEDILLA"), (0x147, "LATIN CAPITAL LETTER N WITH CARON"),
  (0x148, "LATIN SMALL LETTER N WITH CARON"),
  (0x149, "LATIN SMALL LETTER N PRECEDED BY APOSTROPHE"), (0x14A, "LATIN CAPITAL LETTER ENG"),
  (0x14B, "LATIN SMALL LETTER ENG"), (0x14C, "LATIN CAPITAL LETTER O WITH MACRON"),
  (0x14D, "LATIN SMALL LETTER O WITH MACRON"), (0x14E, "LATIN CAPITAL LETTER O WITH BREVE"),
  (0x14F, "LATIN SMALL LETTER O WITH BREVE"), (0x150, "LATIN CAPITAL LETTER O WITH DOUBLE ACUTE"),
  (0x151, "LATIN SMALL LETTER O WITH DOUBLE ACUTE"), (0x152, "LATIN CAPITAL LIGATURE OE"),
  (0x153, "LATIN SMALL LIGATURE OE"), (0x154, "LATIN CAPITAL LETTER R WITH ACUTE"),
  (0x155, "LATIN SMALL LETTER R WITH ACUTE"), (0x156, "LATIN CAPITAL LETTER R WITH CEDILLA"),
  (0x157, "LATIN SMALL LETTER R WITH CEDILLA"), (0x158, "LATIN CAPITAL LETTER R WITH CARON"),
  (0x159, "LATIN SMALL LETTER R WITH CARON"), (0x15A, "LATIN CAPITAL LETTER S WITH ACUTE"),
  (0x15B, "LATIN SMALL LETTER S WITH ACUTE"), (0x15C, "LATIN CAPITAL LETTER S WITH CIRCUMFLEX"),
  (0x15D, "LATIN SMALL LETTER S WITH CIRCUMFLEX"), (0x15E, "LATIN CAPITAL LETTER S WITH CEDILLA"),
  (0x15F, "LATIN SMALL LETTER S WITH CEDILLA"), (0x160, "LATIN CAPITAL LETTER S WITH CARON"),
  (0x161, "LATIN SMALL LETTER S WITH CARON"), (0x162, "LATIN CAPITAL LETTER T WITH CEDILLA"),
  (0x163, "LATIN SMALL LETTER T WITH CEDILLA"), (0x164, "LATIN CAPITAL LETTER T WITH CARON"),
  (0x165, "LATIN SMALL LETTER T WITH CARON"), (0x166, "LATIN CAPITAL LETTER T WITH STROKE"),
  (0x167, "LATIN SMALL LETTER T WITH STROKE"), (0x168, "LATIN CAPITAL LETTER U WITH TILDE"),
  (0x169, "LATIN SMALL LETTER U WITH TILDE"), (0x16A, "LATIN CAPITAL LETTER U WITH MACRON"),
  (0x16B, "LATIN SMALL LETTER U WITH MACRON"), (0x16C, "LATIN CAPITAL LETTER U WITH BREVE"),
  (0x16D, "LATIN SMALL LETTER U WITH BREVE"), (0x16E, "LATIN CAPITAL LETTER U WITH RING ABOVE"),
  (0x16F, "LATIN SMALL LETTER U WITH RING ABOVE"),
  (0x170, "LATIN CAPITAL LETTER U WITH DOUBLE ACUTE"),
  (0x171, "LATIN SMALL LETTER U WITH DOUBLE ACUTE"),
  (0x172, "LATIN CAPITAL LETTER U WITH OGONEK"), (0x173, "LATIN SMALL LETTER U WITH OGONEK"),
  (0x174, "LATIN CAPITAL LETTER W WITH CIRCUMFLEX"),
  (0x175, "LATIN SMALL LETTER W WITH CIRCUMFLEX"),
  (0x176, "LATIN CAPITAL LETTER Y WITH CIRCUMFLEX"),
  (0x177, "LATIN SMALL LETTER Y WITH CIRCUMFLEX"),
  (0x178, "LATIN CAPITAL LETTER Y WITH DIAERESIS"), (0x179, "LATIN CAPITAL LETTER Z WITH ACUTE"),
  (0x17A, "LATIN SMALL LETTER Z WITH ACUTE"), (0x17B, "LATIN CAPITAL LETTER Z WITH DOT ABOVE"),
  (0x17C, "LATIN SMALL LETTER Z WITH DOT ABOVE"), (0x17D, "LATIN CAPITAL LETTER Z WITH CARON"),
  (0x17E, "LATIN SMALL LETTER Z WITH CARON"), (0x17F, "LATIN SMALL LETTER LONG S")]

/-- Names of modifier letters. -/
def modifierNames : List (Nat × String) := [
  (0x2B0, "MODIFIER LETTER SMALL H"), (0x2B1, "MODIFIER LETTER SMALL H WITH HOOK"),
  (0x2B2, "MODIFIER LETTER SMALL J"), (0x2B3, "MODIFIER LETTER SMALL R"),
  (0x2B4, "MODIFIER LETTER SMALL TURNED R"), (0x2B5, "MODIFIER LETTER SMALL TURNED R WITH HOOK"),
  (0x2B6, "MODIFIER LETTER SMALL CAPITAL INVERTED R"), (0x2B7, "MODIFIER LETTER SMALL W"),
  (0x2B8, "MODIFIER LETTER SMALL Y"), (0x2B9, "MODIFIER LETTER PRIME"),
  (0x2BA, "MODIFIER LETTER DOUBLE PRIME"), (0x2BB, "MODIFIER LETTER TURNED COMMA"),
  (0x2BC, "MODIFIER LETTER APOSTROPHE"), (0x2BD, "MODIFIER LETTER REVERSED COMMA"),
  (0x2BE, "MODIFIER LETTER RIGHT HALF RING"), (0x2BF, "MODIFIER LETTER LEFT HALF RING"),
  (0x2C0, "MODIFIER LETTER GLOTTAL STOP"), (0x2C1, "MODIFIER LETTER REVERSED GLOTTAL STOP"),
  (0x2C2, "MODIFIER LETTER LEFT ARROWHEAD"), (0x2C3, "MODIFIER LETTER RIGHT ARROWHEAD"),
  (0x2C4, "MODIFIER LETTER UP ARROWHEAD"), (0x2C5, "MODIFIER LETTER DOWN ARROWHEAD"),
  (0x2C6, "MODIFIER LETTER CIRCUMFLEX ACCENT"), (0x2C7, "CARON"),
  (0x2C8, "MODIFIER LETTER VERTICAL LINE"), (0x2C9, "MODIFIER LETTER MACRON"),
  (0x2CA, "MODIFIER LETTER ACUTE ACCENT"), (0x2CB, "MODIFIER LETTER GRAVE ACCENT"),
  (0x2CC, "MODIFIER LETTER LOW VERTICAL LINE"), (0x2CD, "MODIFIER LETTER LOW MACRON"),
  (0x2CE, "MODIFIER LETTER LOW GRAVE ACCENT"), (0x2CF, "MODIFIER LETTER LOW ACUTE ACCENT"),
  (0x2D0, "MODIFIER LETTER TRIANGULAR COLON"), (0x2D1, "MODIFIER LETTER HALF TRIANGULAR COLON"),
  (0x2D2, "MODIFIER LETTER CENTRED RIGHT HALF RING"),
  (0x2D3, "MODIFIER LETTER CENTRED LEFT HALF RING"), (0x2D4, "MODIFIER LETTER UP TACK"),
  (0x2D5, "MODIFIER LETTER DOWN TACK"), (0x2D6, "MODIFIER LETTER PLUS SIGN"),
  (0x2D7, "MODIFIER LETTER MINUS SIGN"), (0x2D8, "BREVE"), (0x2D9, "DOT ABOVE"),
  (0x2DA, "RING ABOVE"), (0x2DB, "OGONEK"), (0x2DC, "SMALL TILDE"),
  (0x2DD, "DOUBLE ACUTE ACCENT"), (0x2DE, "MODIFIER LETTER RHOTIC HOOK"),
  (0x2DF, "MODIFIER LETTER CROSS ACCENT"), (0x2E0, "MODIFIER LETTER SMALL GAMMA"),
  (0x2E1, "MODIFIER LETTER SMALL L"), (0x2E2, "MODIFIER LETTER SMALL S"),
  (0x2E3, "MODIFIER LETTER SMALL X"), (0x2E4, "MODIFIER LETTER SMALL REVERSED GLOTTAL STOP"),
  (0x2E5, "MODIFIER LETTER EXTRA-HIGH TONE BAR"), (0x2E6, "MODIFIER LETTER HIGH TONE BAR"),
  (0x2E7, "MODIFIER LETTER MID TONE BAR"), (0x2E8, "MODIFIER LETTER LOW TONE BAR"),
  (0x2E9, "MODIFIER LETTER EXTRA-LOW TONE BAR"),
  (0x2EA, "MODIFIER LETTER YIN DEPARTING TONE MARK"),
  (0x2EB, "MODIFIER LETTER YANG DEPARTING TONE MARK"), (0x2EC, "MODIFIER LETTER VOICING"),
  (0x2ED, "MODIFIER LETTER UNASPIRATED"), (0x2EE, "MODIFIER LETTER DOUBLE APOSTROPHE"),
  (0x2EF, "MODIFIER LETTER LOW DOWN ARROWHEAD"), (0x2F0, "MODIFIER LETTER LOW UP ARROWHEAD"),
  (0x2F1, "MODIFIER LETTER LOW LEFT ARROWHEAD"), (0x2F2, "MODIFIER LETTER LOW RIGHT ARROWHEAD"),
  (0x2F3, "MODIFIER LETTER LOW RING"), (0x2F4, "MODIFIER LETTER MIDDLE GRAVE ACCENT"),
  (0x2F5, "MODIFIER LETTER MIDDLE DOUBLE GRAVE ACCENT"),
  (0x2F6, "MODIFIER LETTER MIDDLE DOUBLE ACUTE ACCENT"), (0x2F7, "MODIFIER LETTER LOW TILDE"),
  (0x2F8, "MODIFIER LETTER RAISED COLON"), (0x2F9, "MODIFIER LETTER BEGIN HIGH TONE"),
  (0x2FA, "MODIFIER LETTER END HIGH TONE"), (0x2FB, "MODIFIER LETTER BEGIN LOW TONE"),
  (0x2FC, "MODIFIER LETTER END LOW TONE"), (0x2FD, "MODIFIER LETTER SHELF"),
  (0x2FE, "MODIFIER LETTER OPEN SHELF"), (0x2FF, "MODIFIER LETTER LOW LEFT ARROW")]

/-- Names of Greek and Cyrillic letters. -/
def greekCyrillicNames : List (Nat × String) := [
  (0x370, "GREEK CAPITAL LETTER HETA"), (0x371, "GREEK SMALL LETTER HETA"),
  (0x372, "GREEK CAPITAL LETTER ARCHAIC SAMPI"), (0x373, "GREEK SMALL LETTER ARCHAIC SAMPI"),
  (0x374, "GREEK NUMERAL SIGN"), (0x375, "GREEK LOWER NUMERAL SIGN"),
  (0x376, "GREEK CAPITAL LETTER PAMPHYLIAN DIGAMMA"),
  (0x377, "GREEK SMALL LETTER PAMPHYLIAN DIGAMMA"), (0x37A, "GREEK YPOGEGRAMMENI"),
  (0x37B, "GREEK SMALL REVERSED LUNATE SIGMA SYMBOL"),
  (0x37C, "GREEK SMALL DOTTED LUNATE SIGMA SYMBOL"),
  (0x37D, "GREEK SMALL REVERSED DOTTED LUNATE SIGMA SYMBOL"), (0x37E, "GREEK QUESTION MARK"),
  (0x37F, "GREEK CAPITAL LETTER YOT"), (0x384, "GREEK TONOS"), (0x385, "GREEK DIALYTIKA TONOS"),
  (0x386, "GREEK CAPITAL LETTER ALPHA WITH TONOS"), (0x387, "GREEK ANO TELEIA"),
  (0x388, "GREEK CAPITAL LETTER EPSILON WITH TONOS"),
  (0x389, "GREEK CAPITAL LETTER ETA WITH TONOS"), (0x38A, "GREEK CAPITAL LETTER IOTA WITH TONOS"),
  (0x38C, "GREEK CAPITAL LETTER OMICRON WITH TONOS"),
  (0x38E, "GREEK CAPITAL LETTER UPSILON WITH TONOS"),
  (0x38F, "GREEK CAPITAL LETTER OMEGA WITH TONOS"),
  (0x390, "GREEK SMALL LETTER IOTA WITH DIALYTIKA AND TONOS"),
  (0x391, "GREEK CAPITAL LETTER ALPHA"), (0x392, "GREEK CAPITAL LETTER BETA"),
  (0x393, "GREEK CAPITAL LETTER GAMMA"), (0x394, "GREEK CAPITAL LETTER DELTA"),
  (0x395, "GREEK CAPITAL LETTER EPSILON"), (0x396, "GREEK CAPITAL LETTER ZETA"),
  (0x397, "GREEK CAPITAL LETTER ETA"), (0x398, "GREEK CAPITAL LETTER THETA"),
  (0x399, "GREEK CAPITAL LETTER IOTA"), (0x39A, "GREEK CAPITAL LETTER KAPPA"),
  (0x39B, "GREEK CAPITAL LETTER LAMDA"), (0x39C, "GREEK CAPITAL LETTER MU"),
  (0x39D, "GREEK CAPITAL LETTER NU"), (0x39E, "GREEK CAPITAL LETTER XI"),
  (0x39F, "GREEK CAPITAL LETTER OMICRON"), (0x3A0, "GREEK CAPITAL LETTER PI"),
  (0x3A1, "GREEK CAPITAL LETTER RHO"), (0x3A3, "GREEK CAPITAL LETTER SIGMA"),
  (0x3A4, "GREEK CAPITAL LETTER TAU"), (0x3A5, "GREEK CAPITAL LETTER UPSILON"),
  (0x3A6, "GREEK CAPITAL LETTER PHI"), (0x3A7, "GREEK CAPITAL LETTER CHI"),
  (0x3A8, "GREEK CAPITAL LETTER PSI"), (0x3A9, "GREEK CAPITAL LETTER OMEGA"),
  (0x3AA, "GREEK CAPITAL LETTER IOTA WITH DIALYTIKA"),
  (0x3AB, "GREEK CAPITAL LETTER UPSILON WITH DIALYTIKA"),
  (0x3AC, "GREEK SMALL LETTER ALPHA WITH TONOS"),
  (0x3AD, "GREEK SMALL LETTER EPSILON WITH TONOS"), (0x3AE, "GREEK SMALL LETTER ETA WITH TONOS"),
  (0x3AF, "GREEK SMALL LETTER IOTA WITH TONOS"),
  (0x3B0, "GREEK SMALL LETTER UPSILON WITH DIALYTIKA AND TONOS"),
  (0x3B1, "GREEK SMALL LETTER ALPHA"), (0x3B2, "GREEK SMALL LETTER BETA"),
  (0x3B3, "GREEK SMALL LETTER GAMMA"), (0x3B4, "GREEK SMALL LETTER DELTA"),
  (0x3B5, "GREEK SMALL LETTER EPSILON"), (0x3B6, "GREEK SMALL LETTER ZETA"),
  (0x3B7, "GREEK SMALL LETTER ETA"), (0x3B8, "GREEK SMALL LETTER THETA"),
  (0x3B9, "GREEK SMALL LETTER IOTA"), (0x3BA, "GREEK SMALL LETTER KAPPA"),
  (0x3BB, "GREEK SMALL LETTER LAMDA"), (0x3BC, "GREEK SMALL LETTER MU"),
  (0x3BD, "GREEK SMALL LETTER NU"), (0x3BE, "GREEK SMALL LETTER XI"),
  (0x3BF, "GREEK SMALL LETTER OMICRON"), (0x3C0, "GREEK SMALL LETTER PI"),
  (0x3C1, "GREEK SMALL LETTER RHO"), (0x3C2, "GREEK SMALL LETTER FINAL SIGMA"),
  (0x3C3, "GREEK SMALL LETTER SIGMA"), (0x3C4, "GREEK SMALL LETTER TAU"),
  (0x3C5, "GREEK SMALL LETTER UPSILON"), (0x3C6, "GREEK SMALL LETTER PHI"),
  (0x3C7, "GREEK SMALL LETTER CHI"), (0x3C8, "GREEK SMALL LETTER PSI"),
  (0x3C9, "GREEK SMALL LETTER OMEGA"), (0x3CA, "GREEK SMALL LETTER IOTA WITH DIALYTIKA"),
  (0x3CB, "GREEK SMALL LETTER UPSILON WITH DIALYTIKA"),
  (0x3CC, "GREEK SMALL LETTER OMICRON WITH TONOS"),
  (0x3CD, "GREEK SMALL LETTER UPSILON WITH TONOS"),
  (0x3CE, "GREEK SMALL LETTER OMEGA WITH TONOS"), (0x3CF, "GREEK CAPITAL KAI SYMBOL"),
  (0x3D0, "GREEK BETA SYMBOL"), (0x3D1, "GREEK THETA SYMBOL"),
  (0x3D2, "GREEK UPSILON WITH HOOK SYMBOL"), (0x3D3, "GREEK UPSILON WITH ACUTE AND HOOK SYMBOL"),
  (0x3D4, "GREEK UPSILON WITH DIAERESIS AND HOOK SYMBOL"), (0x3D5, "GREEK PHI SYMBOL"),
  (0x3D6, "GREEK PI SYMBOL"), (0x3D7, "GREEK KAI SYMBOL"), (0x3D8, "GREEK LETTER ARCHAIC KOPPA"),
  (0x3D9, "GREEK SMALL LETTER ARCHAIC KOPPA"), (0x3DA, "GREEK LETTER STIGMA"),
  (0x3DB, "GREEK SMALL LETTER STIGMA"), (0x3DC, "GREEK LETTER DIGAMMA"),
  (0x3DD, "GREEK SMALL LETTER DIGAMMA"), (0x3DE, "GREEK LETTER KOPPA"),
  (0x3DF, "GREEK SMALL LETTER KOPPA"), (0x3E0, "GREEK LETTER SAMPI"),
  (0x3E1, "GREEK SMALL LETTER SAMPI"), (0x3E2, "COPTIC CAPITAL LETTER SHEI"),
  (0x3E3, "COPTIC SMALL LETTER SHEI"), (0x3E4, "COPTIC CAPITAL LETTER FEI"),
  (0x3E5, "COPTIC SMALL LETTER FEI"), (0x3E6, "COPTIC CAPITAL LETTER KHEI"),
  (0x3E7, "COPTIC SMALL LETTER KHEI"), (0x3E8, "COPTIC CAPITAL LETTER HORI"),
  (0x3E9, "COPTIC SMALL LETTER HORI"), (0x3EA, "COPTIC CAPITAL LETTER GANGIA"),
  (0x3EB, "COPTIC SMALL LETTER GANGIA"), (0x3EC, "COPTIC CAPITAL LETTER SHIMA"),
  (0x3ED, "COPTIC SMALL LETTER SHIMA"), (0x3EE, "COPTIC CAPITAL LETTER DEI"),
  (0x3EF, "COPTIC SMALL LETTER DEI"), (0x3F0, "GREEK KAPPA SYMBOL"), (0x3F1, "GREEK RHO SYMBOL"),
  (0x3F2, "GREEK LUNATE SIGMA SYMBOL"), (0x3F3, "GREEK LETTER YOT"),
  (0x3F4, "GREEK CAPITAL THETA SYMBOL"), (0x3F5, "GREEK LUNATE EPSILON SYMBOL"),
  (0x3F6, "GREEK REVERSED LUNATE EPSILON SYMBOL"), (0x3F7, "GREEK CAPITAL LETTER SHO"),
  (0x3F8, "GREEK SMALL LETTER SHO"), (0x3F9, "GREEK CAPITAL LUNATE SIGMA SYMBOL"),
  (0x3FA, "GREEK CAPITAL LETTER SAN"), (0x3FB, "GREEK SMALL LETTER SAN"),
  (0x3FC, "GREEK RHO WITH STROKE SYMBOL"), (0x3FD, "GREEK CAPITAL REVERSED LUNATE SIGMA SYMBOL"),
  (0x3FE, "GREEK CAPITAL DOTTED LUNATE SIGMA SYMBOL"),
  (0x3FF, "GREEK CAPITAL REVERSED DOTTED LUNATE SIGMA SYMBOL"),
  (0x400, "CYRILLIC CAPITAL LETTER IE WITH GRAVE"), (0x401, "CYRILLIC CAPITAL LETTER IO"),
  (0x402, "CYRILLIC CAPITAL LETTER DJE"), (0x403, "CYRILLIC CAPITAL LETTER GJE"),
  (0x404, "CYRILLIC CAPITAL LETTER UKRAINIAN IE"), (0x405, "CYRILLIC CAPITAL LETTER DZE"),
  (0x406, "CYRILLIC CAPITAL LETTER BYELORUSSIAN-UKRAINIAN I"),
  (0x407, "CYRILLIC CAPITAL LETTER YI"), (0x408, "CYRILLIC CAPITAL LETTER JE"),
  (0x409, "CYRILLIC CAPITAL LETTER LJE"), (0x40A, "CYRILLIC CAPITAL LETTER NJE"),
  (0x40B, "CYRILLIC CAPITAL LETTER TSHE"), (0x40C, "CYRILLIC CAPITAL LETTER KJE"),
  (0x40D, "CYRILLIC CAPITAL LETTER I WITH GRAVE"), (0x40E, "CYRILLIC CAPITAL LETTER SHORT U"),
  (0x40F, "CYRILLIC CAPITAL LETTER DZHE"), (0x410, "CYRILLIC CAPITAL LETTER A"),
  (0x411, "CYRILLIC CAPITAL LETTER BE"), (0x412, "CYRILLIC CAPITAL LETTER VE"),
  (0x413, "CYRILLIC CAPITAL LETTER GHE"), (0x414, "CYRILLIC CAPITAL LETTER DE"),
  (0x415, "CYRILLIC CAPITAL LETTER IE"), (0x416, "CYRILLIC CAPITAL LETTER ZHE"),
  (0x417, "CYRILLIC CAPITAL LETTER ZE"), (0x418, "CYRILLIC CAPITAL LETTER I"),
  (0x419, "CYRILLIC CAPITAL LETTER SHORT I"), (0x41A, "CYRILLIC CAPITAL LETTER KA"),
  (0x41B, "CYRILLIC CAPITAL LETTER EL"), (0x41C, "CYRILLIC CAPITAL LETTER EM"),
  (0x41D, "CYRILLIC CAPITAL LETTER EN"), (0x41E, "CYRILLIC CAPITAL LETTER O"),
  (0x41F, "CYRILLIC CAPITAL LETTER PE"), (0x420, "CYRILLIC CAPITAL LETTER ER"),
  (0x421, "CYRILLIC CAPITAL LETTER ES"), (0x422, "CYRILLIC CAPITAL LETTER TE"),
  (0x423, "CYRILLIC CAPITAL LETTER U"), (0x424, "CYRILLIC CAPITAL LETTER EF"),
  (0x425, "CYRILLIC CAPITAL LETTER HA"), (0x426, "CYRILLIC CAPITAL LETTER TSE"),
  (0x427, "CYRILLIC CAPITAL LETTER CHE"), (0x428, "CYRILLIC CAPITAL LETTER SHA"),
  (0x429, "CYRILLIC CAPITAL LETTER SHCHA"), (0x42A, "CYRILLIC CAPITAL LETTER HARD SIGN"),
  (0x42B, "CYRILLIC CAPITAL LETTER YERU"), (0x42C, "CYRILLIC CAPITAL LETTER SOFT SIGN"),
  (0x42D, "CYRILLIC CAPITAL LETTER E"), (0x42E, "CYRILLIC CAPITAL LETTER YU"),
  (0x42F, "CYRILLIC CAPITAL LETTER YA"), (0x430, "CYRILLIC SMALL LETTER A"),
  (0x431, "CYRILLIC SMALL LETTER BE"), (0x432, "CYRILLIC SMALL LETTER VE"),
  (0x433, "CYRILLIC SMALL LETTER GHE"), (0x434, "CYRILLIC SMALL LETTER DE"),
  (0x435, "CYRILLIC SMALL LETTER IE"), (0x436, "CYRILLIC SMALL LETTER ZHE"),
  (0x437, "CYRILLIC SMALL LETTER ZE"), (0x438, "CYRILLIC SMALL LETTER I"),
  (0x439, "CYRILLIC SMALL LETTER SHORT I"), (0x43A, "CYRILLIC SMALL LETTER KA"),
  (0x43B, "CYRILLIC SMALL LETTER EL"), (0x43C, "CYRILLIC SMALL LETTER EM"),
  (0x43D, "CYRILLIC SMALL LETTER EN"), (0x43E, "CYRILLIC SMALL LETTER O"),
  (0x43F, "CYRILLIC SMALL LETTER PE"), (0x440, "CYRILLIC SMALL LETTER ER"),
  (0x441, "CYRILLIC SMALL LETTER ES"), (0x442, "CYRILLIC SMALL LETTER TE"),
  (0x443, "CYRILLIC SMALL LETTER U"), (0x444, "CYRILLIC SMALL LETTER EF"),
  (0x445, "CYRILLIC SMALL LETTER HA"), (0x446, "CYRILLIC SMALL LETTER TSE"),
  (0x447, "CYRILLIC SMALL LETTER CHE"), (0x448, "CYRILLIC SMALL LETTER SHA"),
  (0x449, "CYRILLIC SMALL LETTER SHCHA"), (0x44A, "CYRILLIC SMALL LETTER HARD SIGN"),
  (0x44B, "CYRILLIC SMALL LETTER YERU"), (0x44C, "CYRILLIC SMALL LETTER SOFT SIGN"),
  (0x44D, "CYRILLIC SMALL LETTER E"), (0x44E, "CYRILLIC SMALL LETTER YU"),
  (0x44F, "CYRILLIC SMALL LETTER YA"), (0x450, "CYRILLIC SMALL LETTER IE WITH GRAVE"),
  (0x451, "CYRILLIC SMALL LETTER IO"), (0x452, "CYRILLIC SMALL LETTER DJE"),
  (0x453, "CYRILLIC SMALL LETTER GJE"), (0x454, "CYRILLIC SMALL LETTER UKRAINIAN IE"),
  (0x455, "CYRILLIC SMALL LETTER DZE"), (0x456, "CYRILLIC SMALL LETTER BYELORUSSIAN-UKRAINIAN I"),
  (0x457, "CYRILLIC SMALL LETTER YI"), (0x458, "CYRILLIC SMALL LETTER JE"),
  (0x459, "CYRILLIC SMALL LETTER LJE"), (0x45A, "CYRILLIC SMALL LETTER NJE"),
  (0x45B, "CYRILLIC SMALL LETTER TSHE"), (0x45C, "CYRILLIC SMALL LETTER KJE"),
  (0x45D, "CYRILLIC SMALL LETTER I WITH GRAVE"), (0x45E, "CYRILLIC SMALL LETTER SHORT U"),
  (0x45F, "CYRILLIC SMALL LETTER DZHE"), (0x460, "CYRILLIC CAPITAL LETTER OMEGA"),
  (0x461, "CYRILLIC SMALL LETTER OMEGA"), (0x462, "CYRILLIC CAPITAL LETTER YAT"),
  (0x463, "CYRILLIC SMALL LETTER YAT"), (0x464, "CYRILLIC CAPITAL LETTER IOTIFIED E"),
  (0x465, "CYRILLIC SMALL LETTER IOTIFIED E"), (0x466, "CYRILLIC CAPITAL LETTER LITTLE YUS"),
  (0x467, "CYRILLIC SMALL LETTER LITTLE YUS"),
  (0x468, "CYRILLIC CAPITAL LETTER IOTIFIED LITTLE YUS"),
  (0x469, "CYRILLIC SMALL LETTER IOTIFIED LITTLE YUS"),
  (0x46A, "CYRILLIC CAPITAL LETTER BIG YUS"), (0x46B, "CYRILLIC SMALL LETTER BIG YUS"),
  (0x46C, "CYRILLIC CAPITAL LETTER IOTIFIED BIG YUS"),
  (0x46D, "CYRILLIC SMALL LETTER IOTIFIED BIG YUS"), (0x46E, "CYRILLIC CAPITAL LETTER KSI"),
  (0x46F, "CYRILLIC SMALL LETTER KSI"), (0x470, "CYRILLIC CAPITAL LETTER PSI"),
  (0x471, "CYRILLIC SMALL LETTER PSI"), (0x472, "CYRILLIC CAPITAL LETTER FITA"),
  (0x473, "CYRILLIC SMALL LETTER FITA"), (0x474, "CYRILLIC CAPITAL LETTER IZHITSA"),
  (0x475, "CYRILLIC SMALL LETTER IZHITSA"),
  (0x476, "CYRILLIC CAPITAL LETTER IZHITSA WITH DOUBLE GRAVE ACCENT"),
  (0x477, "CYRILLIC SMALL LETTER IZHITSA WITH DOUBLE GRAVE ACCENT"),
  (0x478, "CYRILLIC CAPITAL LETTER UK"), (0x479, "CYRILLIC SMALL LETTER UK"),
  (0x47A, "CYRILLIC CAPITAL LETTER ROUND OMEGA"), (0x47B, "CYRILLIC SMALL LETTER ROUND OMEGA"),
  (0x47C, "CYRILLIC CAPITAL LETTER OMEGA WITH TITLO"),
  (0x47D, "CYRILLIC SMALL LETTER OMEGA WITH TITLO"), (0x47E, "CYRILLIC CAPITAL LETTER OT"),
  (0x47F, "CYRILLIC SMALL LETTER OT"), (0x480, "CYRILLIC CAPITAL LETTER KOPPA"),
  (0x481, "CYRILLIC SMALL LETTER KOPPA"), (0x482, "CYRILLIC THOUSANDS SIGN"),
  (0x483, "COMBINING CYRILLIC TITLO"), (0x484, "COMBINING CYRILLIC PALATALIZATION"),
  (0x485, "COMBINING CYRILLIC DASIA PNEUMATA"), (0x486, "COMBINING CYRILLIC PSILI PNEUMATA"),
  (0x487, "COMBINING CYRILLIC POKRYTIE"), (0x488, "COMBINING CYRILLIC HUNDRED THOUSANDS SIGN"),
  (0x489, "COMBINING CYRILLIC MILLIONS SIGN"),
  (0x48A, "CYRILLIC CAPITAL LETTER SHORT I WITH TAIL"),
  (0x48B, "CYRILLIC SMALL LETTER SHORT I WITH TAIL"),
  (0x48C, "CYRILLIC CAPITAL LETTER SEMISOFT SIGN"),
  (0x48D, "CYRILLIC SMALL LETTER SEMISOFT SIGN"), (0x48E, "CYRILLIC CAPITAL LETTER ER WITH TICK"),
  (0x48F, "CYRILLIC SMALL LETTER ER WITH TICK"),
  (0x490, "CYRILLIC CAPITAL LETTER GHE WITH UPTURN"),
  (0x491, "CYRILLIC SMALL LETTER GHE WITH UPTURN"),
  (0x492, "CYRILLIC CAPITAL LETTER GHE WITH STROKE"),
  (0x493, "CYRILLIC SMALL LETTER GHE WITH STROKE"),
  (0x494, "CYRILLIC CAPITAL LETTER GHE WITH MIDDLE HOOK"),
  (0x495, "CYRILLIC SMALL LETTER GHE WITH MIDDLE HOOK"),
  (0x496, "CYRILLIC CAPITAL LETTER ZHE WITH DESCENDER"),
  (0x497, "CYRILLIC SMALL LETTER ZHE WITH DESCENDER"),
  (0x498, "CYRILLIC CAPITAL LETTER ZE WITH DESCENDER"),
  (0x499, "CYRILLIC SMALL LETTER ZE WITH DESCENDER"),
  (0x49A, "CYRILLIC CAPITAL LETTER KA WITH DESCENDER"),
  (0x49B, "CYRILLIC SMALL LETTER KA WITH DESCENDER"),
  (0x49C, "CYRILLIC CAPITAL LETTER KA WITH VERTICAL STROKE"),
  (0x49D, "CYRILLIC SMALL LETTER KA WITH VERTICAL STROKE"),
  (0x49E, "CYRILLIC CAPITAL LETTER KA WITH STROKE"),
  (0x49F, "CYRILLIC SMALL LETTER KA WITH STROKE"), (0x4A0, "CYRILLIC CAPITAL LETTER BASHKIR KA"),
  (0x4A1, "CYRILLIC SMALL LETTER BASHKIR KA"),
  (0x4A2, "CYRILLIC CAPITAL LETTER EN WITH DESCENDER"),
  (0x4A3, "CYRILLIC SMALL LETTER EN WITH DESCENDER"), (0x4A4, "CYRILLIC CAPITAL LIGATURE EN GHE"),
  (0x4A5, "CYRILLIC SMALL LIGATURE EN GHE"),
  (0x4A6, "CYRILLIC CAPITAL LETTER PE WITH MIDDLE HOOK"),
  (0x4A7, "CYRILLIC SMALL LETTER PE WITH MIDDLE HOOK"),
  (0x4A8, "CYRILLIC CAPITAL LETTER ABKHASIAN HA"), (0x4A9, "CYRILLIC SMALL LETTER ABKHASIAN HA"),
  (0x4AA, "CYRILLIC CAPITAL LETTER ES WITH DESCENDER"),
  (0x4AB, "CYRILLIC SMALL LETTER ES WITH DESCENDER"),
  (0x4AC, "CYRILLIC CAPITAL LETTER TE WITH DESCENDER"),
  (0x4AD, "CYRILLIC SMALL LETTER TE WITH DESCENDER"),
  (0x4AE, "CYRILLIC CAPITAL LETTER STRAIGHT U"), (0x4AF, "CYRILLIC SMALL LETTER STRAIGHT U"),
  (0x4B0, "CYRILLIC CAPITAL LETTER STRAIGHT U WITH STROKE"),
  (0x4B1, "CYRILLIC SMALL LETTER STRAIGHT U WITH STROKE"),
  (0x4B2, "CYRILLIC CAPITAL LETTER HA WITH DESCENDER"),
  (0x4B3, "CYRILLIC SMALL LETTER HA WITH DESCENDER"), (0x4B4, "CYRILLIC CAPITAL LIGATURE TE TSE"),
  (0x4B5, "CYRILLIC SMALL LIGATURE TE TSE"),
  (0x4B6, "CYRILLIC CAPITAL LETTER CHE WITH DESCENDER"),
  (0x4B7, "CYRILLIC SMALL LETTER CHE WITH DESCENDER"),
  (0x4B8, "CYRILLIC CAPITAL LETTER CHE WITH VERTICAL STROKE"),
  (0x4B9, "CYRILLIC SMALL LETTER CHE WITH VERTICAL STROKE"),
  (0x4BA, "CYRILLIC CAPITAL LETTER SHHA"), (0x4BB, "CYRILLIC SMALL LETTER SHHA"),
  (0x4BC, "CYRILLIC CAPITAL LETTER ABKHASIAN CHE"),
  (0x4BD, "CYRILLIC SMALL LETTER ABKHASIAN CHE"),
  (0x4BE, "CYRILLIC CAPITAL LETTER ABKHASIAN CHE WITH DESCENDER"),
  (0x4BF, "CYRILLIC SMALL LETTER ABKHASIAN CHE WITH DESCENDER"),
  (0x4C0, "CYRILLIC LETTER PALOCHKA"), (0x4C1, "CYRILLIC CAPITAL LETTER ZHE WITH BREVE"),
  (0x4C2, "CYRILLIC SMALL LETTER ZHE WITH BREVE"),
  (0x4C3, "CYRILLIC CAPITAL LETTER KA WITH HOOK"), (0x4C4, "CYRILLIC SMALL LETTER KA WITH HOOK"),
  (0x4C5, "CYRILLIC CAPITAL LETTER EL WITH TAIL"), (0x4C6, "CYRILLIC SMALL LETTER EL WITH TAIL"),
  (0x4C7, "CYRILLIC CAPITAL LETTER EN WITH HOOK"), (0x4C8, "CYRILLIC SMALL LETTER EN WITH HOOK"),
  (0x4C9, "CYRILLIC CAPITAL LETTER EN WITH TAIL"), (0x4CA, "CYRILLIC SMALL LETTER EN WITH TAIL"),
  (0x4CB, "CYRILLIC CAPITAL LETTER KHAKASSIAN CHE"),
  (0x4CC, "CYRILLIC SMALL LETTER KHAKASSIAN CHE"),
  (0x4CD, "CYRILLIC CAPITAL LETTER EM WITH TAIL"), (0x4CE, "CYRILLIC SMALL LETTER EM WITH TAIL"),
  (0x4CF, "CYRILLIC SMALL LETTER PALOCHKA"), (0x4D0, "CYRILLIC CAPITAL LETTER A WITH BREVE"),
  (0x4D1, "CYRILLIC SMALL LETTER A WITH BREVE"),
  (0x4D2, "CYRILLIC CAPITAL LETTER A WITH DIAERESIS"),
  (0x4D3, "CYRILLIC SMALL LETTER A WITH DIAERESIS"), (0x4D4, "CYRILLIC CAPITAL LIGATURE A IE"),
  (0x4D5, "CYRILLIC SMALL LIGATURE A IE"), (0x4D6, "CYRILLIC CAPITAL LETTER IE WITH BREVE"),
  (0x4D7, "CYRILLIC SMALL LETTER IE WITH BREVE"), (0x4D8, "CYRILLIC CAPITAL LETTER SCHWA"),
  (0x4D9, "CYRILLIC SMALL LETTER SCHWA"), (0x4DA, "CYRILLIC CAPITAL LETTER SCHWA WITH DIAERESIS"),
  (0x4DB, "CYRILLIC SMALL LETTER SCHWA WITH DIAERESIS"),
  (0x4DC, "CYRILLIC CAPITAL LETTER ZHE WITH DIAERESIS"),
  (0x4DD, "CYRILLIC SMALL LETTER ZHE WITH DIAERESIS"),
  (0x4DE, "CYRILLIC CAPITAL LETTER ZE WITH DIAERESIS"),
  (0x4DF, "CYRILLIC SMALL LETTER ZE WITH DIAERESIS"),
  (0x4E0, "CYRILLIC CAPITAL LETTER ABKHASIAN DZE"),
  (0x4E1, "CYRILLIC SMALL LETTER ABKHASIAN DZE"),
  (0x4E2, "CYRILLIC CAPITAL LETTER I WITH MACRON"),
  (0x4E3, "CYRILLIC SMALL LETTER I WITH MACRON"),
  (0x4E4, "CYRILLIC CAPITAL LETTER I WITH DIAERESIS"),
  (0x4E5, "CYRILLIC SMALL LETTER I WITH DIAERESIS"),
  (0x4E6, "CYRILLIC CAPITAL LETTER O WITH DIAERESIS"),
  (0x4E7, "CYRILLIC SMALL LETTER O WITH DIAERESIS"), (0x4E8, "CYRILLIC CAPITAL LETTER BARRED O"),
  (0x4E9, "CYRILLIC SMALL LETTER BARRED O"),
  (0x4EA, "CYRILLIC CAPITAL LETTER BARRED O WITH DIAERESIS"),
  (0x4EB, "CYRILLIC SMALL LETTER BARRED O WITH DIAERESIS"),
  (0x4EC, "CYRILLIC CAPITAL LETTER E WITH DIAERESIS"),
  (0x4ED, "CYRILLIC SMALL LETTER E WITH DIAERESIS"),
  (0x4EE, "CYRILLIC CAPITAL LETTER U WITH MACRON"),
  (0x4EF, "CYRILLIC SMALL LETTER U WITH MACRON"),
  (0x4F0, "CYRILLIC CAPITAL LETTER U WITH DIAERESIS"),
  (0x4F1, "CYRILLIC SMALL LETTER U WITH DIAERESIS"),
  (0x4F2, "CYRILLIC CAPITAL LETTER U WITH DOUBLE ACUTE"),
  (0x4F3, "CYRILLIC SMALL LETTER U WITH DOUBLE ACUTE"),
  (0x4F4, "CYRILLIC CAPITAL LETTER CHE WITH DIAERESIS"),
  (0x4F5, "CYRILLIC SMALL LETTER CHE WITH DIAERESIS"),
  (0x4F6, "CYRILLIC CAPITAL LETTER GHE WITH DESCENDER"),
  (0x4F7, "CYRILLIC SMALL LETTER GHE WITH DESCENDER"),
  (0x4F8, "CYRILLIC CAPITAL LETTER YERU WITH DIAERESIS"),
  (0x4F9, "CYRILLIC SMALL LETTER YERU WITH DIAERESIS"),
  (0x4FA, "CYRILLIC CAPITAL LETTER GHE WITH STROKE AND HOOK"),
  (0x4FB, "CYRILLIC SMALL LETTER GHE WITH STROKE AND HOOK"),
  (0x4FC, "CYRILLIC CAPITAL LETTER HA WITH HOOK"), (0x4FD, "CYRILLIC SMALL LETTER HA WITH HOOK"),
  (0x4FE, "CYRILLIC CAPITAL LETTER HA WITH STROKE"),
  (0x4FF, "CYRILLIC SMALL LETTER HA WITH STROKE")]

/-- Names of Hebrew letters. -/
def hebrewNames : List (Nat × String) := [
  (0x5D0, "HEBREW LETTER ALEF"), (0x5D1, "HEBREW LETTER BET"), (0x5D2, "HEBREW LETTER GIMEL"),
  (0x5D3, "HEBREW LETTER DALET"), (0x5D4, "HEBREW LETTER HE"), (0x5D5, "HEBREW LETTER VAV"),
  (0x5D6, "HEBREW LETTER ZAYIN"), (0x5D7, "HEBREW LETTER HET"), (0x5D8, "HEBREW LETTER TET"),
  (0x5D9, "HEBREW LETTER YOD"), (0x5DA, "HEBREW LETTER FINAL KAF"), (0x5DB, "HEBREW LETTER KAF"),
  (0x5DC, "HEBREW LETTER LAMED"), (0x5DD, "HEBREW LETTER FINAL MEM"),
  (0x5DE, "HEBREW LETTER MEM"), (0x5DF, "HEBREW LETTER FINAL NUN"), (0x5E0, "HEBREW LETTER NUN"),
  (0x5E1, "HEBREW LETTER SAMEKH"), (0x5E2, "HEBREW LETTER AYIN"),
  (0x5E3, "HEBREW LETTER FINAL PE"), (0x5E4, "HEBREW LETTER PE"),
  (0x5E5, "HEBREW LETTER FINAL TSADI"), (0x5E6, "HEBREW LETTER TSADI"),
  (0x5E7, "HEBREW LETTER QOF"), (0x5E8, "HEBREW LETTER RESH"), (0x5E9, "HEBREW LETTER SHIN"),
  (0x5EA, "HEBREW LETTER TAV")]

/-- Names of Arabic letters. -/
def arabicNames : List (Nat × String) := [
  (0x621, "ARABIC LETTER HAMZA"), (0x622, "ARABIC LETTER ALEF WITH MADDA ABOVE"),
  (0x623, "ARABIC LETTER ALEF WITH HAMZA ABOVE"), (0x624, "ARABIC LETTER WAW WITH HAMZA ABOVE"),
  (0x625, "ARABIC LETTER ALEF WITH HAMZA BELOW"), (0x626, "ARABIC LETTER YEH WITH HAMZA ABOVE"),
  (0x627, "ARABIC LETTER ALEF"), (0x628, "ARABIC LETTER BEH"),
  (0x629, "ARABIC LETTER TEH MARBUTA"), (0x62A, "ARABIC LETTER TEH"),
  (0x62B, "ARABIC LETTER THEH"), (0x62C, "ARABIC LETTER JEEM"), (0x62D, "ARABIC LETTER HAH"),
  (0x62E, "ARABIC LETTER KHAH"), (0x62F, "ARABIC LETTER DAL"), (0x630, "ARABIC LETTER THAL"),
  (0x631, "ARABIC LETTER REH"), (0x632, "ARABIC LETTER ZAIN"), (0x633, "ARABIC LETTER SEEN"),
  (0x634, "ARABIC LETTER SHEEN"), (0x635, "ARABIC LETTER SAD"), (0x636, "ARABIC LETTER DAD"),
  (0x637, "ARABIC LETTER TAH"), (0x638, "ARABIC LETTER ZAH"), (0x639, "ARABIC LETTER AIN"),
  (0x63A, "ARABIC LETTER GHAIN"), (0x63B, "ARABIC LETTER KEHEH WITH TWO DOTS ABOVE"),
  (0x63C, "ARABIC LETTER KEHEH WITH THREE DOTS BELOW"),
  (0x63D, "ARABIC LETTER FARSI YEH WITH INVERTED V"),
  (0x63E, "ARABIC LETTER FARSI YEH WITH TWO DOTS ABOVE"),
  (0x63F, "ARABIC LETTER FARSI YEH WITH THREE DOTS ABOVE"), (0x640, "ARABIC TATWEEL"),
  (0x641, "ARABIC LETTER FEH"), (0x642, "ARABIC LETTER QAF"), (0x643, "ARABIC LETTER KAF"),
  (0x644, "ARABIC LETTER LAM"), (0x645, "ARABIC LETTER MEEM"), (0x646, "ARABIC LETTER NOON"),
  (0x647, "ARABIC LETTER HEH"), (0x648, "ARABIC LETTER WAW"),
  (0x649, "ARABIC LETTER ALEF MAKSURA"), (0x64A, "ARABIC LETTER YEH")]

/-- Names of general punctuation. -/
def punctuationNames : List (Nat × String) := [
  (0x2000, "EN QUAD"), (0x2001, "EM QUAD"), (0x2002, "EN SPACE"), (0x2003, "EM SPACE"),
  (0x2004, "THREE-PER-EM SPACE"), (0x2005, "FOUR-PER-EM SPACE"), (0x2006, "SIX-PER-EM SPACE"),
  (0x2007, "FIGURE SPACE"), (0x2008, "PUNCTUATION SPACE"), (0x2009, "THIN SPACE"),
  (0x200A, "HAIR SPACE"), (0x200B, "ZERO WIDTH SPACE"), (0x200C, "ZERO WIDTH NON-JOINER"),
  (0x200D, "ZERO WIDTH JOINER"), (0x200E, "LEFT-TO-RIGHT MARK"), (0x200F, "RIGHT-TO-LEFT MARK"),
  (0x2010, "HYPHEN"), (0x2011, "NON-BREAKING HYPHEN"), (0x2012, "FIGURE DASH"),
  (0x2013, "EN DASH"), (0x2014, "EM DASH"), (0x2015, "HORIZONTAL BAR"),
  (0x2016, "DOUBLE VERTICAL LINE"), (0x2017, "DOUBLE LOW LINE"),
  (0x2018, "LEFT SINGLE QUOTATION MARK"), (0x2019, "RIGHT SINGLE QUOTATION MARK"),
  (0x201A, "SINGLE LOW-9 QUOTATION MARK"), (0x201B, "SINGLE HIGH-REVERSED-9 QUOTATION MARK"),
  (0x201C, "LEFT DOUBLE QUOTATION MARK"), (0x201D, "RIGHT DOUBLE QUOTATION MARK"),
  (0x201E, "DOUBLE LOW-9 QUOTATION MARK"), (0x201F, "DOUBLE HIGH-REVERSED-9 QUOTATION MARK"),
  (0x2020, "DAGGER"), (0x2021, "DOUBLE DAGGER"), (0x2022, "BULLET"),
  (0x2023, "TRIANGULAR BULLET"), (0x2024, "ONE DOT LEADER"), (0x2025, "TWO DOT LEADER"),
  (0x2026, "HORIZONTAL ELLIPSIS"), (0x2027, "HYPHENATION POINT"), (0x2028, "LINE SEPARATOR"),
  (0x2029, "PARAGRAPH SEPARATOR"), (0x202A, "LEFT-TO-RIGHT EMBEDDING"),
  (0x202B, "RIGHT-TO-LEFT EMBEDDING"), (0x202C, "POP DIRECTIONAL FORMATTING"),
  (0x202D, "LEFT-TO-RIGHT OVERRIDE"), (0x202E, "RIGHT-TO-LEFT OVERRIDE"),
  (0x202F, "NARROW NO-BREAK SPACE"), (0x2030, "PER MILLE SIGN"),
  (0x2031, "PER TEN THOUSAND SIGN"), (0x2032, "PRIME"), (0x2033, "DOUBLE PRIME"),
  (0x2034, "TRIPLE PRIME"), (0x2035, "REVERSED PRIME"), (0x2036, "REVERSED DOUBLE PRIME"),
  (0x2037, "REVERSED TRIPLE PRIME"), (0x2038, "CARET"),
  (0x2039, "SINGLE LEFT-POINTING ANGLE QUOTATION MARK"),
  (0x203A, "SINGLE RIGHT-POINTING ANGLE QUOTATION MARK"), (0x203B, "REFERENCE MARK"),
  (0x203C, "DOUBLE EXCLAMATION MARK"), (0x203D, "INTERROBANG"), (0x203E, "OVERLINE"),
  (0x203F, "UNDERTIE"), (0x2040, "CHARACTER TIE"), (0x2041, "CARET INSERTION POINT"),
  (0x2042, "ASTERISM"), (0x2043, "HYPHEN BULLET"), (0x2044, "FRACTION SLASH"),
  (0x2045, "LEFT SQUARE BRACKET WITH QUILL"), (0x2046, "RIGHT SQUARE BRACKET WITH QUILL"),
  (0x2047, "DOUBLE QUESTION MARK"), (0x2048, "QUESTION EXCLAMATION MARK"),
  (0x2049, "EXCLAMATION QUESTION MARK"), (0x204A, "TIRONIAN SIGN ET"),
  (0x204B, "REVERSED PILCROW SIGN"), (0x204C, "BLACK LEFTWARDS BULLET"),
  (0x204D, "BLACK RIGHTWARDS BULLET"), (0x204E, "LOW ASTERISK"), (0x204F, "REVERSED SEMICOLON"),
  (0x2050, "CLOSE UP"), (0x2051, "TWO ASTERISKS ALIGNED VERTICALLY"),
  (0x2052, "COMMERCIAL MINUS SIGN"), (0x2053, "SWUNG DASH"), (0x2054, "INVERTED UNDERTIE"),
  (0x2055, "FLOWER PUNCTUATION MARK"), (0x2056, "THREE DOT PUNCTUATION"),
  (0x2057, "QUADRUPLE PRIME"), (0x2058, "FOUR DOT PUNCTUATION"), (0x2059, "FIVE DOT PUNCTUATION"),
  (0x205A, "TWO DOT PUNCTUATION"), (0x205B, "FOUR DOT MARK"), (0x205C, "DOTTED CROSS"),
  (0x205D, "TRICOLON"), (0x205E, "VERTICAL FOUR DOTS"), (0x205F, "MEDIUM MATHEMATICAL SPACE"),
  (0x2060, "WORD JOINER"), (0x2061, "FUNCTION APPLICATION"), (0x2062, "INVISIBLE TIMES"),
  (0x2063, "INVISIBLE SEPARATOR"), (0x2064, "INVISIBLE PLUS"), (0x2066, "LEFT-TO-RIGHT ISOLATE"),
  (0x2067, "RIGHT-TO-LEFT ISOLATE"), (0x2068, "FIRST STRONG ISOLATE"),
  (0x2069, "POP DIRECTIONAL ISOLATE"), (0x206A, "INHIBIT SYMMETRIC SWAPPING"),
  (0x206B, "ACTIVATE SYMMETRIC SWAPPING"), (0x206C, "INHIBIT ARABIC FORM SHAPING"),
  (0x206D, "ACTIVATE ARABIC FORM SHAPING"), (0x206E, "NATIONAL DIGIT SHAPES"),
  (0x206F, "NOMINAL DIGIT SHAPES")]

/-- Names of currency signs. -/
def currencyNames : List (Nat × String) := [
  (0x20A0, "EURO-CURRENCY SIGN"), (0x20A1, "COLON SIGN"), (0x20A2, "CRUZEIRO SIGN"),
  (0x20A3, "FRENCH FRANC SIGN"), (0x20A4, "LIRA SIGN"), (0x20A5, "MILL SIGN"),
  (0x20A6, "NAIRA SIGN"), (0x20A7, "PESETA SIGN"), (0x20A8, "RUPEE SIGN"), (0x20A9, "WON SIGN"),
  (0x20AA, "NEW SHEQEL SIGN"), (0x20AB, "DONG SIGN"), (0x20AC, "EURO SIGN"), (0x20AD, "KIP SIGN"),
  (0x20AE, "TUGRIK SIGN"), (0x20AF, "DRACHMA SIGN"), (0x20B0, "GERMAN PENNY SIGN"),
  (0x20B1, "PESO SIGN"), (0x20B2, "GUARANI SIGN"), (0x20B3, "AUSTRAL SIGN"),
  (0x20B4, "HRYVNIA SIGN"), (0x20B5, "CEDI SIGN"), (0x20B6, "LIVRE TOURNOIS SIGN"),
  (0x20B7, "SPESMILO SIGN"), (0x20B8, "TENGE SIGN"), (0x20B9, "INDIAN RUPEE SIGN"),
  (0x20BA, "TURKISH LIRA SIGN"), (0x20BB, "NORDIC MARK SIGN"), (0x20BC, "MANAT SIGN"),
  (0x20BD, "RUBLE SIGN"), (0x20BE, "LARI SIGN"), (0x20BF, "BITCOIN SIGN"), (0x20C0, "SOM SIGN")]

/-- Names of letterlike symbols. -/
def letterlikeNames : List (Nat × String) := [
  (0x2100, "ACCOUNT OF"), (0x2101, "ADDRESSED TO THE SUBJECT"),
  (0x2102, "DOUBLE-STRUCK CAPITAL C"), (0x2103, "DEGREE CELSIUS"), (0x2104, "CENTRE LINE SYMBOL"),
  (0x2105, "CARE OF"), (0x2106, "CADA UNA"), (0x2107, "EULER CONSTANT"), (0x2108, "SCRUPLE"),
  (0x2109, "DEGREE FAHRENHEIT"), (0x210A, "SCRIPT SMALL G"), (0x210B, "SCRIPT CAPITAL H"),
  (0x210C, "BLACK-LETTER CAPITAL H"), (0x210D, "DOUBLE-STRUCK CAPITAL H"),
  (0x210E, "PLANCK CONSTANT"), (0x210F, "PLANCK CONSTANT OVER TWO PI"),
  (0x2110, "SCRIPT CAPITAL I"), (0x2111, "BLACK-LETTER CAPITAL I"), (0x2112, "SCRIPT CAPITAL L"),
  (0x2113, "SCRIPT SMALL L"), (0x2114, "L B BAR SYMBOL"), (0x2115, "DOUBLE-STRUCK CAPITAL N"),
  (0x2116, "NUMERO SIGN"), (0x2117, "SOUND RECORDING COPYRIGHT"), (0x2118, "SCRIPT CAPITAL P"),
  (0x2119, "DOUBLE-STRUCK CAPITAL P"), (0x211A, "DOUBLE-STRUCK CAPITAL Q"),
  (0x211B, "SCRIPT CAPITAL R"), (0x211C, "BLACK-LETTER CAPITAL R"),
  (0x211D, "DOUBLE-STRUCK CAPITAL R"), (0x211E, "PRESCRIPTION TAKE"), (0x211F, "RESPONSE"),
  (0x2120, "SERVICE MARK"), (0x2121, "TELEPHONE SIGN"), (0x2122, "TRADE MARK SIGN"),
  (0x2123, "VERSICLE"), (0x2124, "DOUBLE-STRUCK CAPITAL Z"), (0x2125, "OUNCE SIGN"),
  (0x2126, "OHM SIGN"), (0x2127, "INVERTED OHM SIGN"), (0x2128, "BLACK-LETTER CAPITAL Z"),
  (0x2129, "TURNED GREEK SMALL LETTER IOTA"), (0x212A, "KELVIN SIGN"), (0x212B, "ANGSTROM SIGN"),
  (0x212C, "SCRIPT CAPITAL B"), (0x212D, "BLACK-LETTER CAPITAL C"), (0x212E, "ESTIMATED SYMBOL"),
  (0x212F, "SCRIPT SMALL E"), (0x2130, "SCRIPT CAPITAL E"), (0x2131, "SCRIPT CAPITAL F"),
  (0x2132, "TURNED CAPITAL F"), (0x2133, "SCRIPT CAPITAL M"), (0x2134, "SCRIPT SMALL O"),
  (0x2135, "ALEF SYMBOL"), (0x2136, "BET SYMBOL"), (0x2137, "GIMEL SYMBOL"),
  (0x2138, "DALET SYMBOL"), (0x2139, "INFORMATION SOURCE"), (0x213A, "ROTATED CAPITAL Q"),
  (0x213B, "FACSIMILE SIGN"), (0x213C, "DOUBLE-STRUCK SMALL PI"),
  (0x213D, "DOUBLE-STRUCK SMALL GAMMA"), (0x213E, "DOUBLE-STRUCK CAPITAL GAMMA"),
  (0x213F, "DOUBLE-STRUCK CAPITAL PI"), (0x2140, "DOUBLE-STRUCK N-ARY SUMMATION"),
  (0x2141, "TURNED SANS-SERIF CAPITAL G"), (0x2142, "TURNED SANS-SERIF CAPITAL L"),
  (0x2143, "REVERSED SANS-SERIF CAPITAL L"), (0x2144, "TURNED SANS-SERIF CAPITAL Y"),
  (0x2145, "DOUBLE-STRUCK ITALIC CAPITAL D"), (0x2146, "DOUBLE-STRUCK ITALIC SMALL D"),
  (0x2147, "DOUBLE-STRUCK ITALIC SMALL E"), (0x2148, "DOUBLE-STRUCK ITALIC SMALL I"),
  (0x2149, "DOUBLE-STRUCK ITALIC SMALL J"), (0x214A, "PROPERTY LINE"),
  (0x214B, "TURNED AMPERSAND"), (0x214C, "PER SIGN"), (0x214D, "AKTIESELSKAB"),
  (0x214E, "TURNED SMALL F"), (0x214F, "SYMBOL FOR SAMARITAN SOURCE")]

/-- Names of arrows. -/
def arrowsNames : List (Nat × String) := [
  (0x2190, "LEFTWARDS ARROW"), (0x2191, "UPWARDS ARROW"), (0x2192, "RIGHTWARDS ARROW"),
  (0x2193, "DOWNWARDS ARROW"), (0x2194, "LEFT RIGHT ARROW"), (0x2195, "UP DOWN ARROW"),
  (0x2196, "NORTH WEST ARROW"), (0x2197, "NORTH EAST ARROW"), (0x2198, "SOUTH EAST ARROW"),
  (0x2199, "SOUTH WEST ARROW"), (0x219A, "LEFTWARDS ARROW WITH STROKE"),
  (0x219B, "RIGHTWARDS ARROW WITH STROKE"), (0x219C, "LEFTWARDS WAVE ARROW"),
  (0x219D, "RIGHTWARDS WAVE ARROW"), (0x219E, "LEFTWARDS TWO HEADED ARROW"),
  (0x219F, "UPWARDS TWO HEADED ARROW"), (0x21A0, "RIGHTWARDS TWO HEADED ARROW"),
  (0x21A1, "DOWNWARDS TWO HEADED ARROW"), (0x21A2, "LEFTWARDS ARROW WITH TAIL"),
  (0x21A3, "RIGHTWARDS ARROW WITH TAIL"), (0x21A4, "LEFTWARDS ARROW FROM BAR"),
  (0x21A5, "UPWARDS ARROW FROM BAR"), (0x21A6, "RIGHTWARDS ARROW FROM BAR"),
  (0x21A7, "DOWNWARDS ARROW FROM BAR"), (0x21A8, "UP DOWN ARROW WITH BASE"),
  (0x21A9, "LEFTWARDS ARROW WITH HOOK"), (0x21AA, "RIGHTWARDS ARROW WITH HOOK"),
  (0x21AB, "LEFTWARDS ARROW WITH LOOP"), (0x21AC, "RIGHTWARDS ARROW WITH LOOP"),
  (0x21AD, "LEFT RIGHT WAVE ARROW"), (0x21AE, "LEFT RIGHT ARROW WITH STROKE"),
  (0x21AF, "DOWNWARDS ZIGZAG ARROW"), (0x21B0, "UPWARDS ARROW WITH TIP LEFTWARDS"),
  (0x21B1, "UPWARDS ARROW WITH TIP RIGHTWARDS"), (0x21B2, "DOWNWARDS ARROW WITH TIP LEFTWARDS"),
  (0x21B3, "DOWNWARDS ARROW WITH TIP RIGHTWARDS"),
  (0x21B4, "RIGHTWARDS ARROW WITH CORNER DOWNWARDS"),
  (0x21B5, "DOWNWARDS ARROW WITH CORNER LEFTWARDS"),
  (0x21B6, "ANTICLOCKWISE TOP SEMICIRCLE ARROW"), (0x21B7, "CLOCKWISE TOP SEMICIRCLE ARROW"),
  (0x21B8, "NORTH WEST ARROW TO LONG BAR"),
  (0x21B9, "LEFTWARDS ARROW TO BAR OVER RIGHTWARDS ARROW TO BAR"),
  (0x21BA, "ANTICLOCKWISE OPEN CIRCLE ARROW"), (0x21BB, "CLOCKWISE OPEN CIRCLE ARROW"),
  (0x21BC, "LEFTWARDS HARPOON WITH BARB UPWARDS"),
  (0x21BD, "LEFTWARDS HARPOON WITH BARB DOWNWARDS"),
  (0x21BE, "UPWARDS HARPOON WITH BARB RIGHTWARDS"),
  (0x21BF, "UPWARDS HARPOON WITH BARB LEFTWARDS"),
  (0x21C0, "RIGHTWARDS HARPOON WITH BARB UPWARDS"),
  (0x21C1, "RIGHTWARDS HARPOON WITH BARB DOWNWARDS"),
  (0x21C2, "DOWNWARDS HARPOON WITH BARB RIGHTWARDS"),
  (0x21C3, "DOWNWARDS HARPOON WITH BARB LEFTWARDS"),
  (0x21C4, "RIGHTWARDS ARROW OVER LEFTWARDS ARROW"),
  (0x21C5, "UPWARDS ARROW LEFTWARDS OF DOWNWARDS ARROW"),
  (0x21C6, "LEFTWARDS ARROW OVER RIGHTWARDS ARROW"), (0x21C7, "LEFTWARDS PAIRED ARROWS"),
  (0x21C8, "UPWARDS PAIRED ARROWS"), (0x21C9, "RIGHTWARDS PAIRED ARROWS"),
  (0x21CA, "DOWNWARDS PAIRED ARROWS"), (0x21CB, "LEFTWARDS HARPOON OVER RIGHTWARDS HARPOON"),
  (0x21CC, "RIGHTWARDS HARPOON OVER LEFTWARDS HARPOON"),
  (0x21CD, "LEFTWARDS DOUBLE ARROW WITH STROKE"), (0x21CE, "LEFT RIGHT DOUBLE ARROW WITH STROKE"),
  (0x21CF, "RIGHTWARDS DOUBLE ARROW WITH STROKE"), (0x21D0, "LEFTWARDS DOUBLE ARROW"),
  (0x21D1, "UPWARDS DOUBLE ARROW"), (0x21D2, "RIGHTWARDS DOUBLE ARROW"),
  (0x21D3, "DOWNWARDS DOUBLE ARROW"), (0x21D4, "LEFT RIGHT DOUBLE ARROW"),
  (0x21D5, "UP DOWN DOUBLE ARROW"), (0x21D6, "NORTH WEST DOUBLE ARROW"),
  (0x21D7, "NORTH EAST DOUBLE ARROW"), (0x21D8, "SOUTH EAST DOUBLE ARROW"),
  (0x21D9, "SOUTH WEST DOUBLE ARROW"), (0x21DA, "LEFTWARDS TRIPLE ARROW"),
  (0x21DB, "RIGHTWARDS TRIPLE ARROW"), (0x21DC, "LEFTWARDS SQUIGGLE ARROW"),
  (0x21DD, "RIGHTWARDS SQUIGGLE ARROW"), (0x21DE, "UPWARDS ARROW WITH DOUBLE STROKE"),
  (0x21DF, "DOWNWARDS ARROW WITH DOUBLE STROKE"), (0x21E0, "LEFTWARDS DASHED ARROW"),
  (0x21E1, "UPWARDS DASHED ARROW"), (0x21E2, "RIGHTWARDS DASHED ARROW"),
  (0x21E3, "DOWNWARDS DASHED ARROW"), (0x21E4, "LEFTWARDS ARROW TO BAR"),
  (0x21E5, "RIGHTWARDS ARROW TO BAR"), (0x21E6, "LEFTWARDS WHITE ARROW"),
  (0x21E7, "UPWARDS WHITE ARROW"), (0x21E8, "RIGHTWARDS WHITE ARROW"),
  (0x21E9, "DOWNWARDS WHITE ARROW"), (0x21EA, "UPWARDS WHITE ARROW FROM BAR"),
  (0x21EB, "UPWARDS WHITE ARROW ON PEDESTAL"),
  (0x21EC, "UPWARDS WHITE ARROW ON PEDESTAL WITH HORIZONTAL BAR"),
  (0x21ED, "UPWARDS WHITE ARROW ON PEDESTAL WITH VERTICAL BAR"),
  (0x21EE, "UPWARDS WHITE DOUBLE ARROW"), (0x21EF, "UPWARDS WHITE DOUBLE ARROW ON PEDESTAL"),
  (0x21F0, "RIGHTWARDS WHITE ARROW FROM WALL"), (0x21F1, "NORTH WEST ARROW TO CORNER"),
  (0x21F2, "SOUTH EAST ARROW TO CORNER"), (0x21F3, "UP DOWN WHITE ARROW"),
  (0x21F4, "RIGHT ARROW WITH SMALL CIRCLE"),
  (0x21F5, "DOWNWARDS ARROW LEFTWARDS OF UPWARDS ARROW"), (0x21F6, "THREE RIGHTWARDS ARROWS"),
  (0x21F7, "LEFTWARDS ARROW WITH VERTICAL STROKE"),
  (0x21F8, "RIGHTWARDS ARROW WITH VERTICAL STROKE"),
  (0x21F9, "LEFT RIGHT ARROW WITH VERTICAL STROKE"),
  (0x21FA, "LEFTWARDS ARROW WITH DOUBLE VERTICAL STROKE"),
  (0x21FB, "RIGHTWARDS ARROW WITH DOUBLE VERTICAL STROKE"),
  (0x21FC, "LEFT RIGHT ARROW WITH DOUBLE VERTICAL STROKE"),
  (0x21FD, "LEFTWARDS OPEN-HEADED ARROW"), (0x21FE, "RIGHTWARDS OPEN-HEADED ARROW"),
  (0x21FF, "LEFT RIGHT OPEN-HEADED ARROW")]

/-- Names of mathematical operators. -/
def operatorsNames : List (Nat × String) := [
  (0x2200, "FOR ALL"), (0x2201, "COMPLEMENT"), (0x2202, "PARTIAL DIFFERENTIAL"),
  (0x2203, "THERE EXISTS"), (0x2204, "THERE DOES NOT EXIST"), (0x2205, "EMPTY SET"),
  (0x2206, "INCREMENT"), (0x2207, "NABLA"), (0x2208, "ELEMENT OF"), (0x2209, "NOT AN ELEMENT OF"),
  (0x220A, "SMALL ELEMENT OF"), (0x220B, "CONTAINS AS MEMBER"),
  (0x220C, "DOES NOT CONTAIN AS MEMBER"), (0x220D, "SMALL CONTAINS AS MEMBER"),
  (0x220E, "END OF PROOF"), (0x220F, "N-ARY PRODUCT"), (0x2210, "N-ARY COPRODUCT"),
  (0x2211, "N-ARY SUMMATION"), (0x2212, "MINUS SIGN"), (0x2213, "MINUS-OR-PLUS SIGN"),
  (0x2214, "DOT PLUS"), (0x2215, "DIVISION SLASH"), (0x2216, "SET MINUS"),
  (0x2217, "ASTERISK OPERATOR"), (0x2218, "RING OPERATOR"), (0x2219, "BULLET OPERATOR"),
  (0x221A, "SQUARE ROOT"), (0x221B, "CUBE ROOT"), (0x221C, "FOURTH ROOT"),
  (0x221D, "PROPORTIONAL TO"), (0x221E, "INFINITY"), (0x221F, "RIGHT ANGLE"), (0x2220, "ANGLE"),
  (0x2221, "MEASURED ANGLE"), (0x2222, "SPHERICAL ANGLE"), (0x2223, "DIVIDES"),
  (0x2224, "DOES NOT DIVIDE"), (0x2225, "PARALLEL TO"), (0x2226, "NOT PARALLEL TO"),
  (0x2227, "LOGICAL AND"), (0x2228, "LOGICAL OR"), (0x2229, "INTERSECTION"), (0x222A, "UNION"),
  (0x222B, "INTEGRAL"), (0x222C, "DOUBLE INTEGRAL"), (0x222D, "TRIPLE INTEGRAL"),
  (0x222E, "CONTOUR INTEGRAL"), (0x222F, "SURFACE INTEGRAL"), (0x2230, "VOLUME INTEGRAL"),
  (0x2231, "CLOCKWISE INTEGRAL"), (0x2232, "CLOCKWISE CONTOUR INTEGRAL"),
  (0x2233, "ANTICLOCKWISE CONTOUR INTEGRAL"), (0x2234, "THEREFORE"), (0x2235, "BECAUSE"),
  (0x2236, "RATIO"), (0x2237, "PROPORTION"), (0x2238, "DOT MINUS"), (0x2239, "EXCESS"),
  (0x223A, "GEOMETRIC PROPORTION"), (0x223B, "HOMOTHETIC"), (0x223C, "TILDE OPERATOR"),
  (0x223D, "REVERSED TILDE"), (0x223E, "INVERTED LAZY S"), (0x223F, "SINE WAVE"),
  (0x2240, "WREATH PRODUCT"), (0x2241, "NOT TILDE"), (0x2242, "MINUS TILDE"),
  (0x2243, "ASYMPTOTICALLY EQUAL TO"), (0x2244, "NOT ASYMPTOTICALLY EQUAL TO"),
  (0x2245, "APPROXIMATELY EQUAL TO"), (0x2246, "APPROXIMATELY BUT NOT ACTUALLY EQUAL TO"),
  (0x2247, "NEITHER APPROXIMATELY NOR ACTUALLY EQUAL TO"), (0x2248, "ALMOST EQUAL TO"),
  (0x2249, "NOT ALMOST EQUAL TO"), (0x224A, "ALMOST EQUAL OR EQUAL TO"), (0x224B, "TRIPLE TILDE"),
  (0x224C, "ALL EQUAL TO"), (0x224D, "EQUIVALENT TO"), (0x224E, "GEOMETRICALLY EQUIVALENT TO"),
  (0x224F, "DIFFERENCE BETWEEN"), (0x2250, "APPROACHES THE LIMIT"),
  (0x2251, "GEOMETRICALLY EQUAL TO"), (0x2252, "APPROXIMATELY EQUAL TO OR THE IMAGE OF"),
  (0x2253, "IMAGE OF OR APPROXIMATELY EQUAL TO"), (0x2254, "COLON EQUALS"),
  (0x2255, "EQUALS COLON"), (0x2256, "RING IN EQUAL TO"), (0x2257, "RING EQUAL TO"),
  (0x2258, "CORRESPONDS TO"), (0x2259, "ESTIMATES"), (0x225A, "EQUIANGULAR TO"),
  (0x225B, "STAR EQUALS"), (0x225C, "DELTA EQUAL TO"), (0x225D, "EQUAL TO BY DEFINITION"),
  (0x225E, "MEASURED BY"), (0x225F, "QUESTIONED EQUAL TO"), (0x2260, "NOT EQUAL TO"),
  (0x2261, "IDENTICAL TO"), (0x2262, "NOT IDENTICAL TO"), (0x2263, "STRICTLY EQUIVALENT TO"),
  (0x2264, "LESS-THAN OR EQUAL TO"), (0x2265, "GREATER-THAN OR EQUAL TO"),
  (0x2266, "LESS-THAN OVER EQUAL TO"), (0x2267, "GREATER-THAN OVER EQUAL TO"),
  (0x2268, "LESS-THAN BUT NOT EQUAL TO"), (0x2269, "GREATER-THAN BUT NOT EQUAL TO"),
  (0x226A, "MUCH LESS-THAN"), (0x226B, "MUCH GREATER-THAN"), (0x226C, "BETWEEN"),
  (0x226D, "NOT EQUIVALENT TO"), (0x226E, "NOT LESS-THAN"), (0x226F, "NOT GREATER-THAN"),
  (0x2270, "NEITHER LESS-THAN NOR EQUAL TO"), (0x2271, "NEITHER GREATER-THAN NOR EQUAL TO"),
  (0x2272, "LESS-THAN OR EQUIVALENT TO"), (0x2273, "GREATER-THAN OR EQUIVALENT TO"),
  (0x2274, "NEITHER LESS-THAN NOR EQUIVALENT TO"),
  (0x2275, "NEITHER GREATER-THAN NOR EQUIVALENT TO"), (0x2276, "LESS-THAN OR GREATER-THAN"),
  (0x2277, "GREATER-THAN OR LESS-THAN"), (0x2278, "NEITHER LESS-THAN NOR GREATER-THAN"),
  (0x2279, "NEITHER GREATER-THAN NOR LESS-THAN"), (0x227A, "PRECEDES"), (0x227B, "SUCCEEDS"),
  (0x227C, "PRECEDES OR EQUAL TO"), (0x227D, "SUCCEEDS OR EQUAL TO"),
  (0x227E, "PRECEDES OR EQUIVALENT TO"), (0x227F, "SUCCEEDS OR EQUIVALENT TO"),
  (0x2280, "DOES NOT PRECEDE"), (0x2281, "DOES NOT SUCCEED"), (0x2282, "SUBSET OF"),
  (0x2283, "SUPERSET OF"), (0x2284, "NOT A SUBSET OF"), (0x2285, "NOT A SUPERSET OF"),
  (0x2286, "SUBSET OF OR EQUAL TO"), (0x2287, "SUPERSET OF OR EQUAL TO"),
  (0x2288, "NEITHER A SUBSET OF NOR EQUAL TO"), (0x2289, "NEITHER A SUPERSET OF NOR EQUAL TO"),
  (0x228A, "SUBSET OF WITH NOT EQUAL TO"), (0x228B, "SUPERSET OF WITH NOT EQUAL TO"),
  (0x228C, "MULTISET"), (0x228D, "MULTISET MULTIPLICATION"), (0x228E, "MULTISET UNION"),
  (0x228F, "SQUARE IMAGE OF"), (0x2290, "SQUARE ORIGINAL OF"),
  (0x2291, "SQUARE IMAGE OF OR EQUAL TO"), (0x2292, "SQUARE ORIGINAL OF OR EQUAL TO"),
  (0x2293, "SQUARE CAP"), (0x2294, "SQUARE CUP"), (0x2295, "CIRCLED PLUS"),
  (0x2296, "CIRCLED MINUS"), (0x2297, "CIRCLED TIMES"), (0x2298, "CIRCLED DIVISION SLASH"),
  (0x2299, "CIRCLED DOT OPERATOR"), (0x229A, "CIRCLED RING OPERATOR"),
  (0x229B, "CIRCLED ASTERISK OPERATOR"), (0x229C, "CIRCLED EQUALS"), (0x229D, "CIRCLED DASH"),
  (0x229E, "SQUARED PLUS"), (0x229F, "SQUARED MINUS"), (0x22A0, "SQUARED TIMES"),
  (0x22A1, "SQUARED DOT OPERATOR"), (0x22A2, "RIGHT TACK"), (0x22A3, "LEFT TACK"),
  (0x22A4, "DOWN TACK"), (0x22A5, "UP TACK"), (0x22A6, "ASSERTION"), (0x22A7, "MODELS"),
  (0x22A8, "TRUE"), (0x22A9, "FORCES"), (0x22AA, "TRIPLE VERTICAL BAR RIGHT TURNSTILE"),
  (0x22AB, "DOUBLE VERTICAL BAR DOUBLE RIGHT TURNSTILE"), (0x22AC, "DOES NOT PROVE"),
  (0x22AD, "NOT TRUE"), (0x22AE, "DOES NOT FORCE"),
  (0x22AF, "NEGATED DOUBLE VERTICAL BAR DOUBLE RIGHT TURNSTILE"),
  (0x22B0, "PRECEDES UNDER RELATION"), (0x22B1, "SUCCEEDS UNDER RELATION"),
  (0x22B2, "NORMAL SUBGROUP OF"), (0x22B3, "CONTAINS AS NORMAL SUBGROUP"),
  (0x22B4, "NORMAL SUBGROUP OF OR EQUAL TO"), (0x22B5, "CONTAINS AS NORMAL SUBGROUP OR EQUAL TO"),
  (0x22B6, "ORIGINAL OF"), (0x22B7, "IMAGE OF"), (0x22B8, "MULTIMAP"),
  (0x22B9, "HERMITIAN CONJUGATE MATRIX"), (0x22BA, "INTERCALATE"), (0x22BB, "XOR"),
  (0x22BC, "NAND"), (0x22BD, "NOR"), (0x22BE, "RIGHT ANGLE WITH ARC"), (0x22BF, "RIGHT TRIANGLE"),
  (0x22C0, "N-ARY LOGICAL AND"), (0x22C1, "N-ARY LOGICAL OR"), (0x22C2, "N-ARY INTERSECTION"),
  (0x22C3, "N-ARY UNION"), (0x22C4, "DIAMOND OPERATOR"), (0x22C5, "DOT OPERATOR"),
  (0x22C6, "STAR OPERATOR"), (0x22C7, "DIVISION TIMES"), (0x22C8, "BOWTIE"),
  (0x22C9, "LEFT NORMAL FACTOR SEMIDIRECT PRODUCT"),
  (0x22CA, "RIGHT NORMAL FACTOR SEMIDIRECT PRODUCT"), (0x22CB, "LEFT SEMIDIRECT PRODUCT"),
  (0x22CC, "RIGHT SEMIDIRECT PRODUCT"), (0x22CD, "REVERSED TILDE EQUALS"),
  (0x22CE, "CURLY LOGICAL OR"), (0x22CF, "CURLY LOGICAL AND"), (0x22D0, "DOUBLE SUBSET"),
  (0x22D1, "DOUBLE SUPERSET"), (0x22D2, "DOUBLE INTERSECTION"), (0x22D3, "DOUBLE UNION"),
  (0x22D4, "PITCHFORK"), (0x22D5, "EQUAL AND PARALLEL TO"), (0x22D6, "LESS-THAN WITH DOT"),
  (0x22D7, "GREATER-THAN WITH DOT"), (0x22D8, "VERY MUCH LESS-THAN"),
  (0x22D9, "VERY MUCH GREATER-THAN"), (0x22DA, "LESS-THAN EQUAL TO OR GREATER-THAN"),
  (0x22DB, "GREATER-THAN EQUAL TO OR LESS-THAN"), (0x22DC, "EQUAL TO OR LESS-THAN"),
  (0x22DD, "EQUAL TO OR GREATER-THAN"), (0x22DE, "EQUAL TO OR PRECEDES"),
  (0x22DF, "EQUAL TO OR SUCCEEDS"), (0x22E0, "DOES NOT PRECEDE OR EQUAL"),
  (0x22E1, "DOES NOT SUCCEED OR EQUAL"), (0x22E2, "NOT SQUARE IMAGE OF OR EQUAL TO"),
  (0x22E3, "NOT SQUARE ORIGINAL OF OR EQUAL TO"), (0x22E4, "SQUARE IMAGE OF OR NOT EQUAL TO"),
  (0x22E5, "SQUARE ORIGINAL OF OR NOT EQUAL TO"), (0x22E6, "LESS-THAN BUT NOT EQUIVALENT TO"),
  (0x22E7, "GREATER-THAN BUT NOT EQUIVALENT TO"), (0x22E8, "PRECEDES BUT NOT EQUIVALENT TO"),
  (0x22E9, "SUCCEEDS BUT NOT EQUIVALENT TO"), (0x22EA, "NOT NORMAL SUBGROUP OF"),
  (0x22EB, "DOES NOT CONTAIN AS NORMAL SUBGROUP"), (0x22EC, "NOT NORMAL SUBGROUP OF OR EQUAL TO"),
  (0x22ED, "DOES NOT CONTAIN AS NORMAL SUBGROUP OR EQUAL"), (0x22EE, "VERTICAL ELLIPSIS"),
  (0x22EF, "MIDLINE HORIZONTAL ELLIPSIS"), (0x22F0, "UP RIGHT DIAGONAL ELLIPSIS"),
  (0x22F1, "DOWN RIGHT DIAGONAL ELLIPSIS"), (0x22F2, "ELEMENT OF WITH LONG HORIZONTAL STROKE"),
  (0x22F3, "ELEMENT OF WITH VERTICAL BAR AT END OF HORIZONTAL STROKE"),
  (0x22F4, "SMALL ELEMENT OF WITH VERTICAL BAR AT END OF HORIZONTAL STROKE"),
  (0x22F5, "ELEMENT OF WITH DOT ABOVE"), (0x22F6, "ELEMENT OF WITH OVERBAR"),
  (0x22F7, "SMALL ELEMENT OF WITH OVERBAR"), (0x22F8, "ELEMENT OF WITH UNDERBAR"),
  (0x22F9, "ELEMENT OF WITH TWO HORIZONTAL STROKES"),
  (0x22FA, "CONTAINS WITH LONG HORIZONTAL STROKE"),
  (0x22FB, "CONTAINS WITH VERTICAL BAR AT END OF HORIZONTAL STROKE"),
  (0x22FC, "SMALL CONTAINS WITH VERTICAL BAR AT END OF HORIZONTAL STROKE"),
  (0x22FD, "CONTAINS WITH OVERBAR"), (0x22FE, "SMALL CONTAINS WITH OVERBAR"),
  (0x22FF, "Z NOTATION BAG MEMBERSHIP")]

/-- Names of box drawings and shapes. -/
def shapeNames : List (Nat × String) := [
  (0x2500, "BOX DRAWINGS LIGHT HORIZONTAL"), (0x2501, "BOX DRAWINGS HEAVY HORIZONTAL"),
  (0x2502, "BOX DRAWINGS LIGHT VERTICAL"), (0x2503, "BOX DRAWINGS HEAVY VERTICAL"),
  (0x2504, "BOX DRAWINGS LIGHT TRIPLE DASH HORIZONTAL"),
  (0x2505, "BOX DRAWINGS HEAVY TRIPLE DASH HORIZONTAL"),
  (0x2506, "BOX DRAWINGS LIGHT TRIPLE DASH VERTICAL"),
  (0x2507, "BOX DRAWINGS HEAVY TRIPLE DASH VERTICAL"),
  (0x2508, "BOX DRAWINGS LIGHT QUADRUPLE DASH HORIZONTAL"),
  (0x2509, "BOX DRAWINGS HEAVY QUADRUPLE DASH HORIZONTAL"),
  (0x250A, "BOX DRAWINGS LIGHT QUADRUPLE DASH VERTICAL"),
  (0x250B, "BOX DRAWINGS HEAVY QUADRUPLE DASH VERTICAL"),
  (0x250C, "BOX DRAWINGS LIGHT DOWN AND RIGHT"),
  (0x250D, "BOX DRAWINGS DOWN LIGHT AND RIGHT HEAVY"),
  (0x250E, "BOX DRAWINGS DOWN HEAVY AND RIGHT LIGHT"),
  (0x250F, "BOX DRAWINGS HEAVY DOWN AND RIGHT"), (0x2510, "BOX DRAWINGS LIGHT DOWN AND LEFT"),
  (0x2511, "BOX DRAWINGS DOWN LIGHT AND LEFT HEAVY"),
  (0x2512, "BOX DRAWINGS DOWN HEAVY AND LEFT LIGHT"),
  (0x2513, "BOX DRAWINGS HEAVY DOWN AND LEFT"), (0x2514, "BOX DRAWINGS LIGHT UP AND RIGHT"),
  (0x2515, "BOX DRAWINGS UP LIGHT AND RIGHT HEAVY"),
  (0x2516, "BOX DRAWINGS UP HEAVY AND RIGHT LIGHT"), (0x2517, "BOX DRAWINGS HEAVY UP AND RIGHT"),
  (0x2518, "BOX DRAWINGS LIGHT UP AND LEFT"), (0x2519, "BOX DRAWINGS UP LIGHT AND LEFT HEAVY"),
  (0x251A, "BOX DRAWINGS UP HEAVY AND LEFT LIGHT"), (0x251B, "BOX DRAWINGS HEAVY UP AND LEFT"),
  (0x251C, "BOX DRAWINGS LIGHT VERTICAL AND RIGHT"),
  (0x251D, "BOX DRAWINGS VERTICAL LIGHT AND RIGHT HEAVY"),
  (0x251E, "BOX DRAWINGS UP HEAVY AND RIGHT DOWN LIGHT"),
  (0x251F, "BOX DRAWINGS DOWN HEAVY AND RIGHT UP LIGHT"),
  (0x2520, "BOX DRAWINGS VERTICAL HEAVY AND RIGHT LIGHT"),
  (0x2521, "BOX DRAWINGS DOWN LIGHT AND RIGHT UP HEAVY"),
  (0x2522, "BOX DRAWINGS UP LIGHT AND RIGHT DOWN HEAVY"),
  (0x2523, "BOX DRAWINGS HEAVY VERTICAL AND RIGHT"),
  (0x2524, "BOX DRAWINGS LIGHT VERTICAL AND LEFT"),
  (0x2525, "BOX DRAWINGS VERTICAL LIGHT AND LEFT HEAVY"),
  (0x2526, "BOX DRAWINGS UP HEAVY AND LEFT DOWN LIGHT"),
  (0x2527, "BOX DRAWINGS DOWN HEAVY AND LEFT UP LIGHT"),
  (0x2528, "BOX DRAWINGS VERTICAL HEAVY AND LEFT LIGHT"),
  (0x2529, "BOX DRAWINGS DOWN LIGHT AND LEFT UP HEAVY"),
  (0x252A, "BOX DRAWINGS UP LIGHT AND LEFT DOWN HEAVY"),
  (0x252B, "BOX DRAWINGS HEAVY VERTICAL AND LEFT"),
  (0x252C, "BOX DRAWINGS LIGHT DOWN AND HORIZONTAL"),
  (0x252D, "BOX DRAWINGS LEFT HEAVY AND RIGHT DOWN LIGHT"),
  (0x252E, "BOX DRAWINGS RIGHT HEAVY AND LEFT DOWN LIGHT"),
  (0x252F, "BOX DRAWINGS DOWN LIGHT AND HORIZONTAL HEAVY"),
  (0x2530, "BOX DRAWINGS DOWN HEAVY AND HORIZONTAL LIGHT"),
  (0x2531, "BOX DRAWINGS RIGHT LIGHT AND LEFT DOWN HEAVY"),
  (0x2532, "BOX DRAWINGS LEFT LIGHT AND RIGHT DOWN HEAVY"),
  (0x2533, "BOX DRAWINGS HEAVY DOWN AND HORIZONTAL"),
  (0x2534, "BOX DRAWINGS LIGHT UP AND HORIZONTAL"),
  (0x2535, "BOX DRAWINGS LEFT HEAVY AND RIGHT UP LIGHT"),
  (0x2536, "BOX DRAWINGS RIGHT HEAVY AND LEFT UP LIGHT"),
  (0x2537, "BOX DRAWINGS UP LIGHT AND HORIZONTAL HEAVY"),
  (0x2538, "BOX DRAWINGS UP HEAVY AND HORIZONTAL LIGHT"),
  (0x2539, "BOX DRAWINGS RIGHT LIGHT AND LEFT UP HEAVY"),
  (0x253A, "BOX DRAWINGS LEFT LIGHT AND RIGHT UP HEAVY"),
  (0x253B, "BOX DRAWINGS HEAVY UP AND HORIZONTAL"),
  (0x253C, "BOX DRAWINGS LIGHT VERTICAL AND HORIZONTAL"),
  (0x253D, "BOX DRAWINGS LEFT HEAVY AND RIGHT VERTICAL LIGHT"),
  (0x253E, "BOX DRAWINGS RIGHT HEAVY AND LEFT VERTICAL LIGHT"),
  (0x253F, "BOX DRAWINGS VERTICAL LIGHT AND HORIZONTAL HEAVY"),
  (0x2540, "BOX DRAWINGS UP HEAVY AND DOWN HORIZONTAL LIGHT"),
  (0x2541, "BOX DRAWINGS DOWN HEAVY AND UP HORIZONTAL LIGHT"),
  (0x2542, "BOX DRAWINGS VERTICAL HEAVY AND HORIZONTAL LIGHT"),
  (0x2543, "BOX DRAWINGS LEFT UP HEAVY AND RIGHT DOWN LIGHT"),
  (0x2544, "BOX DRAWINGS RIGHT UP HEAVY AND LEFT DOWN LIGHT"),
  (0x2545, "BOX DRAWINGS LEFT DOWN HEAVY AND RIGHT UP LIGHT"),
  (0x2546, "BOX DRAWINGS RIGHT DOWN HEAVY AND LEFT UP LIGHT"),
  (0x2547, "BOX DRAWINGS DOWN LIGHT AND UP HORIZONTAL HEAVY"),
  (0x2548, "BOX DRAWINGS UP LIGHT AND DOWN HORIZONTAL HEAVY"),
  (0x2549, "BOX DRAWINGS RIGHT LIGHT AND LEFT VERTICAL HEAVY"),
  (0x254A, "BOX DRAWINGS LEFT LIGHT AND RIGHT VERTICAL HEAVY"),
  (0x254B, "BOX DRAWINGS HEAVY VERTICAL AND HORIZONTAL"),
  (0x254C, "BOX DRAWINGS LIGHT DOUBLE DASH HORIZONTAL"),
  (0x254D, "BOX DRAWINGS HEAVY DOUBLE DASH HORIZONTAL"),
  (0x254E, "BOX DRAWINGS LIGHT DOUBLE DASH VERTICAL"),
  (0x254F, "BOX DRAWINGS HEAVY DOUBLE DASH VERTICAL"), (0x2550, "BOX DRAWINGS DOUBLE HORIZONTAL"),
  (0x2551, "BOX DRAWINGS DOUBLE VERTICAL"), (0x2552, "BOX DRAWINGS DOWN SINGLE AND RIGHT DOUBLE"),
  (0x2553, "BOX DRAWINGS DOWN DOUBLE AND RIGHT SINGLE"),
  (0x2554, "BOX DRAWINGS DOUBLE DOWN AND RIGHT"),
  (0x2555, "BOX DRAWINGS DOWN SINGLE AND LEFT DOUBLE"),
  (0x2556, "BOX DRAWINGS DOWN DOUBLE AND LEFT SINGLE"),
  (0x2557, "BOX DRAWINGS DOUBLE DOWN AND LEFT"),
  (0x2558, "BOX DRAWINGS UP SINGLE AND RIGHT DOUBLE"),
  (0x2559, "BOX DRAWINGS UP DOUBLE AND RIGHT SINGLE"),
  (0x255A, "BOX DRAWINGS DOUBLE UP AND RIGHT"),
  (0x255B, "BOX DRAWINGS UP SINGLE AND LEFT DOUBLE"),
  (0x255C, "BOX DRAWINGS UP DOUBLE AND LEFT SINGLE"), (0x255D, "BOX DRAWINGS DOUBLE UP AND LEFT"),
  (0x255E, "BOX DRAWINGS VERTICAL SINGLE AND RIGHT DOUBLE"),
  (0x255F, "BOX DRAWINGS VERTICAL DOUBLE AND RIGHT SINGLE"),
  (0x2560, "BOX DRAWINGS DOUBLE VERTICAL AND RIGHT"),
  (0x2561, "BOX DRAWINGS VERTICAL SINGLE AND LEFT DOUBLE"),
  (0x2562, "BOX DRAWINGS VERTICAL DOUBLE AND LEFT SINGLE"),
  (0x2563, "BOX DRAWINGS DOUBLE VERTICAL AND LEFT"),
  (0x2564, "BOX DRAWINGS DOWN SINGLE AND HORIZONTAL DOUBLE"),
  (0x2565, "BOX DRAWINGS DOWN DOUBLE AND HORIZONTAL SINGLE"),
  (0x2566, "BOX DRAWINGS DOUBLE DOWN AND HORIZONTAL"),
  (0x2567, "BOX DRAWINGS UP SINGLE AND HORIZONTAL DOUBLE"),
  (0x2568, "BOX DRAWINGS UP DOUBLE AND HORIZONTAL SINGLE"),
  (0x2569, "BOX DRAWINGS DOUBLE UP AND HORIZONTAL"),
  (0x256A, "BOX DRAWINGS VERTICAL SINGLE AND HORIZONTAL DOUBLE"),
  (0x256B, "BOX DRAWINGS VERTICAL DOUBLE AND HORIZONTAL SINGLE"),
  (0x256C, "BOX DRAWINGS DOUBLE VERTICAL AND HORIZONTAL"),
  (0x256D, "BOX DRAWINGS LIGHT ARC DOWN AND RIGHT"),
  (0x256E, "BOX DRAWINGS LIGHT ARC DOWN AND LEFT"),
  (0x256F, "BOX DRAWINGS LIGHT ARC UP AND LEFT"), (0x2570, "BOX DRAWINGS LIGHT ARC UP AND RIGHT"),
  (0x2571, "BOX DRAWINGS LIGHT DIAGONAL UPPER RIGHT TO LOWER LEFT"),
  (0x2572, "BOX DRAWINGS LIGHT DIAGONAL UPPER LEFT TO LOWER RIGHT"),
  (0x2573, "BOX DRAWINGS LIGHT DIAGONAL CROSS"), (0x2574, "BOX DRAWINGS LIGHT LEFT"),
  (0x2575, "BOX DRAWINGS LIGHT UP"), (0x2576, "BOX DRAWINGS LIGHT RIGHT"),
  (0x2577, "BOX DRAWINGS LIGHT DOWN"), (0x2578, "BOX DRAWINGS HEAVY LEFT"),
  (0x2579, "BOX DRAWINGS HEAVY UP"), (0x257A, "BOX DRAWINGS HEAVY RIGHT"),
  (0x257B, "BOX DRAWINGS HEAVY DOWN"), (0x257C, "BOX DRAWINGS LIGHT LEFT AND HEAVY RIGHT"),
  (0x257D, "BOX DRAWINGS LIGHT UP AND HEAVY DOWN"),
  (0x257E, "BOX DRAWINGS HEAVY LEFT AND LIGHT RIGHT"),
  (0x257F, "BOX DRAWINGS HEAVY UP AND LIGHT DOWN"), (0x2580, "UPPER HALF BLOCK"),
  (0x2581, "LOWER ONE EIGHTH BLOCK"), (0x2582, "LOWER ONE QUARTER BLOCK"),
  (0x2583, "LOWER THREE EIGHTHS BLOCK"), (0x2584, "LOWER HALF BLOCK"),
  (0x2585, "LOWER FIVE EIGHTHS BLOCK"), (0x2586, "LOWER THREE QUARTERS BLOCK"),
  (0x2587, "LOWER SEVEN EIGHTHS BLOCK"), (0x2588, "FULL BLOCK"),
  (0x2589, "LEFT SEVEN EIGHTHS BLOCK"), (0x258A, "LEFT THREE QUARTERS BLOCK"),
  (0x258B, "LEFT FIVE EIGHTHS BLOCK"), (0x258C, "LEFT HALF BLOCK"),
  (0x258D, "LEFT THREE EIGHTHS BLOCK"), (0x258E, "LEFT ONE QUARTER BLOCK"),
  (0x258F, "LEFT ONE EIGHTH BLOCK"), (0x2590, "RIGHT HALF BLOCK"), (0x2591, "LIGHT SHADE"),
  (0x2592, "MEDIUM SHADE"), (0x2593, "DARK SHADE"), (0x2594, "UPPER ONE EIGHTH BLOCK"),
  (0x2595, "RIGHT ONE EIGHTH BLOCK"), (0x2596, "QUADRANT LOWER LEFT"),
  (0x2597, "QUADRANT LOWER RIGHT"), (0x2598, "QUADRANT UPPER LEFT"),
  (0x2599, "QUADRANT UPPER LEFT AND LOWER LEFT AND LOWER RIGHT"),
  (0x259A, "QUADRANT UPPER LEFT AND LOWER RIGHT"),
  (0x259B, "QUADRANT UPPER LEFT AND UPPER RIGHT AND LOWER LEFT"),
  (0x259C, "QUADRANT UPPER LEFT AND UPPER RIGHT AND LOWER RIGHT"),
  (0x259D, "QUADRANT UPPER RIGHT"), (0x259E, "QUADRANT UPPER RIGHT AND LOWER LEFT"),
  (0x259F, "QUADRANT UPPER RIGHT AND LOWER LEFT AND LOWER RIGHT"), (0x25A0, "BLACK SQUARE"),
  (0x25A1, "WHITE SQUARE"), (0x25A2, "WHITE SQUARE WITH ROUNDED CORNERS"),
  (0x25A3, "WHITE SQUARE CONTAINING BLACK SMALL SQUARE"), (0x25A4, "SQUARE WITH HORIZONTAL FILL"),
  (0x25A5, "SQUARE WITH VERTICAL FILL"), (0x25A6, "SQUARE WITH ORTHOGONAL CROSSHATCH FILL"),
  (0x25A7, "SQUARE WITH UPPER LEFT TO LOWER RIGHT FILL"),
  (0x25A8, "SQUARE WITH UPPER RIGHT TO LOWER LEFT FILL"),
  (0x25A9, "SQUARE WITH DIAGONAL CROSSHATCH FILL"), (0x25AA, "BLACK SMALL SQUARE"),
  (0x25AB, "WHITE SMALL SQUARE"), (0x25AC, "BLACK RECTANGLE"), (0x25AD, "WHITE RECTANGLE"),
  (0x25AE, "BLACK VERTICAL RECTANGLE"), (0x25AF, "WHITE VERTICAL RECTANGLE"),
  (0x25B0, "BLACK PARALLELOGRAM"), (0x25B1, "WHITE PARALLELOGRAM"),
  (0x25B2, "BLACK UP-POINTING TRIANGLE"), (0x25B3, "WHITE UP-POINTING TRIANGLE"),
  (0x25B4, "BLACK UP-POINTING SMALL TRIANGLE"), (0x25B5, "WHITE UP-POINTING SMALL TRIANGLE"),
  (0x25B6, "BLACK RIGHT-POINTING TRIANGLE"), (0x25B7, "WHITE RIGHT-POINTING TRIANGLE"),
  (0x25B8, "BLACK RIGHT-POINTING SMALL TRIANGLE"),
  (0x25B9, "WHITE RIGHT-POINTING SMALL TRIANGLE"), (0x25BA, "BLACK RIGHT-POINTING POINTER"),
  (0x25BB, "WHITE RIGHT-POINTING POINTER"), (0x25BC, "BLACK DOWN-POINTING TRIANGLE"),
  (0x25BD, "WHITE DOWN-POINTING TRIANGLE"), (0x25BE, "BLACK DOWN-POINTING SMALL TRIANGLE"),
  (0x25BF, "WHITE DOWN-POINTING SMALL TRIANGLE"), (0x25C0, "BLACK LEFT-POINTING TRIANGLE"),
  (0x25C1, "WHITE LEFT-POINTING TRIANGLE"), (0x25C2, "BLACK LEFT-POINTING SMALL TRIANGLE"),
  (0x25C3, "WHITE LEFT-POINTING SMALL TRIANGLE"), (0x25C4, "BLACK LEFT-POINTING POINTER"),
  (0x25C5, "WHITE LEFT-POINTING POINTER"), (0x25C6, "BLACK DIAMOND"), (0x25C7, "WHITE DIAMOND"),
  (0x25C8, "WHITE DIAMOND CONTAINING BLACK SMALL DIAMOND"), (0x25C9, "FISHEYE"),
  (0x25CA, "LOZENGE"), (0x25CB, "WHITE CIRCLE"), (0x25CC, "DOTTED CIRCLE"),
  (0x25CD, "CIRCLE WITH VERTICAL FILL"), (0x25CE, "BULLSEYE"), (0x25CF, "BLACK CIRCLE"),
  (0x25D0, "CIRCLE WITH LEFT HALF BLACK"), (0x25D1, "CIRCLE WITH RIGHT HALF BLACK"),
  (0x25D2, "CIRCLE WITH LOWER HALF BLACK"), (0x25D3, "CIRCLE WITH UPPER HALF BLACK"),
  (0x25D4, "CIRCLE WITH UPPER RIGHT QUADRANT BLACK"),
  (0x25D5, "CIRCLE WITH ALL BUT UPPER LEFT QUADRANT BLACK"), (0x25D6, "LEFT HALF BLACK CIRCLE"),
  (0x25D7, "RIGHT HALF BLACK CIRCLE"), (0x25D8, "INVERSE BULLET"),
  (0x25D9, "INVERSE WHITE CIRCLE"), (0x25DA, "UPPER HALF INVERSE WHITE CIRCLE"),
  (0x25DB, "LOWER HALF INVERSE WHITE CIRCLE"), (0x25DC, "UPPER LEFT QUADRANT CIRCULAR ARC"),
  (0x25DD, "UPPER RIGHT QUADRANT CIRCULAR ARC"), (0x25DE, "LOWER RIGHT QUADRANT CIRCULAR ARC"),
  (0x25DF, "LOWER LEFT QUADRANT CIRCULAR ARC"), (0x25E0, "UPPER HALF CIRCLE"),
  (0x25E1, "LOWER HALF CIRCLE"), (0x25E2, "BLACK LOWER RIGHT TRIANGLE"),
  (0x25E3, "BLACK LOWER LEFT TRIANGLE"), (0x25E4, "BLACK UPPER LEFT TRIANGLE"),
  (0x25E5, "BLACK UPPER RIGHT TRIANGLE"), (0x25E6, "WHITE BULLET"),
  (0x25E7, "SQUARE WITH LEFT HALF BLACK"), (0x25E8, "SQUARE WITH RIGHT HALF BLACK"),
  (0x25E9, "SQUARE WITH UPPER LEFT DIAGONAL HALF BLACK"),
  (0x25EA, "SQUARE WITH LOWER RIGHT DIAGONAL HALF BLACK"),
  (0x25EB, "WHITE SQUARE WITH VERTICAL BISECTING LINE"),
  (0x25EC, "WHITE UP-POINTING TRIANGLE WITH DOT"),
  (0x25ED, "UP-POINTING TRIANGLE WITH LEFT HALF BLACK"),
  (0x25EE, "UP-POINTING TRIANGLE WITH RIGHT HALF BLACK"), (0x25EF, "LARGE CIRCLE"),
  (0x25F0, "WHITE SQUARE WITH UPPER LEFT QUADRANT"),
  (0x25F1, "WHITE SQUARE WITH LOWER LEFT QUADRANT"),
  (0x25F2, "WHITE SQUARE WITH LOWER RIGHT QUADRANT"),
  (0x25F3, "WHITE SQUARE WITH UPPER RIGHT QUADRANT"),
  (0x25F4, "WHITE CIRCLE WITH UPPER LEFT QUADRANT"),
  (0x25F5, "WHITE CIRCLE WITH LOWER LEFT QUADRANT"),
  (0x25F6, "WHITE CIRCLE WITH LOWER RIGHT QUADRANT"),
  (0x25F7, "WHITE CIRCLE WITH UPPER RIGHT QUADRANT"), (0x25F8, "UPPER LEFT TRIANGLE"),
  (0x25F9, "UPPER RIGHT TRIANGLE"), (0x25FA, "LOWER LEFT TRIANGLE"),
  (0x25FB, "WHITE MEDIUM SQUARE"), (0x25FC, "BLACK MEDIUM SQUARE"),
  (0x25FD, "WHITE MEDIUM SMALL SQUARE"), (0x25FE, "BLACK MEDIUM SMALL SQUARE"),
  (0x25FF, "LOWER RIGHT TRIANGLE")]

/-- Names of Japanese syllables. -/
def kanaNames : List (Nat × String) := [
  (0x3041, "HIRAGANA LETTER SMALL A"), (0x3042, "HIRAGANA LETTER A"),
  (0x3043, "HIRAGANA LETTER SMALL I"), (0x3044, "HIRAGANA LETTER I"),
  (0x3045, "HIRAGANA LETTER SMALL U"), (0x3046, "HIRAGANA LETTER U"),
  (0x3047, "HIRAGANA LETTER SMALL E"), (0x3048, "HIRAGANA LETTER E"),
  (0x3049, "HIRAGANA LETTER SMALL O"), (0x304A, "HIRAGANA LETTER O"),
  (0x304B, "HIRAGANA LETTER KA"), (0x304C, "HIRAGANA LETTER GA"), (0x304D, "HIRAGANA LETTER KI"),
  (0x304E, "HIRAGANA LETTER GI"), (0x304F, "HIRAGANA LETTER KU"), (0x3050, "HIRAGANA LETTER GU"),
  (0x3051, "HIRAGANA LETTER KE"), (0x3052, "HIRAGANA LETTER GE"), (0x3053, "HIRAGANA LETTER KO"),
  (0x3054, "HIRAGANA LETTER GO"), (0x3055, "HIRAGANA LETTER SA"), (0x3056, "HIRAGANA LETTER ZA"),
  (0x3057, "HIRAGANA LETTER SI"), (0x3058, "HIRAGANA LETTER ZI"), (0x3059, "HIRAGANA LETTER SU"),
  (0x305A, "HIRAGANA LETTER ZU"), (0x305B, "HIRAGANA LETTER SE"), (0x305C, "HIRAGANA LETTER ZE"),
  (0x305D, "HIRAGANA LETTER SO"), (0x305E, "HIRAGANA LETTER ZO"), (0x305F, "HIRAGANA LETTER TA"),
  (0x3060, "HIRAGANA LETTER DA"), (0x3061, "HIRAGANA LETTER TI"), (0x3062, "HIRAGANA LETTER DI"),
  (0x3063, "HIRAGANA LETTER SMALL TU"), (0x3064, "HIRAGANA LETTER TU"),
  (0x3065, "HIRAGANA LETTER DU"), (0x3066, "HIRAGANA LETTER TE"), (0x3067, "HIRAGANA LETTER DE"),
  (0x3068, "HIRAGANA LETTER TO"), (0x3069, "HIRAGANA LETTER DO"), (0x306A, "HIRAGANA LETTER NA"),
  (0x306B, "HIRAGANA LETTER NI"), (0x306C, "HIRAGANA LETTER NU"), (0x306D, "HIRAGANA LETTER NE"),
  (0x306E, "HIRAGANA LETTER NO"), (0x306F, "HIRAGANA LETTER HA"), (0x3070, "HIRAGANA LETTER BA"),
  (0x3071, "HIRAGANA LETTER PA"), (0x3072, "HIRAGANA LETTER HI"), (0x3073, "HIRAGANA LETTER BI"),
  (0x3074, "HIRAGANA LETTER PI"), (0x3075, "HIRAGANA LETTER HU"), (0x3076, "HIRAGANA LETTER BU"),
  (0x3077, "HIRAGANA LETTER PU"), (0x3078, "HIRAGANA LETTER HE"), (0x3079, "HIRAGANA LETTER BE"),
  (0x307A, "HIRAGANA LETTER PE"), (0x307B, "HIRAGANA LETTER HO"), (0x307C, "HIRAGANA LETTER BO"),
  (0x307D, "HIRAGANA LETTER PO"), (0x307E, "HIRAGANA LETTER MA"), (0x307F, "HIRAGANA LETTER MI"),
  (0x3080, "HIRAGANA LETTER MU"), (0x3081, "HIRAGANA LETTER ME"), (0x3082, "HIRAGANA LETTER MO"),
  (0x3083, "HIRAGANA LETTER SMALL YA"), (0x3084, "HIRAGANA LETTER YA"),
  (0x3085, "HIRAGANA LETTER SMALL YU"), (0x3086, "HIRAGANA LETTER YU"),
  (0x3087, "HIRAGANA LETTER SMALL YO"), (0x3088, "HIRAGANA LETTER YO"),
  (0x3089, "HIRAGANA LETTER RA"), (0x308A, "HIRAGANA LETTER RI"), (0x308B, "HIRAGANA LETTER RU"),
  (0x308C, "HIRAGANA LETTER RE"), (0x308D, "HIRAGANA LETTER RO"),
  (0x308E, "HIRAGANA LETTER SMALL WA"), (0x308F, "HIRAGANA LETTER WA"),
  (0x3090, "HIRAGANA LETTER WI"), (0x3091, "HIRAGANA LETTER WE"), (0x3092, "HIRAGANA LETTER WO"),
  (0x3093, "HIRAGANA LETTER N"), (0x3094, "HIRAGANA LETTER VU"),
  (0x3095, "HIRAGANA LETTER SMALL KA"), (0x3096, "HIRAGANA LETTER SMALL KE"),
  (0x3099, "COMBINING KATAKANA-HIRAGANA VOICED SOUND MARK"),
  (0x309A, "COMBINING KATAKANA-HIRAGANA SEMI-VOICED SOUND MARK"),
  (0x309B, "KATAKANA-HIRAGANA VOICED SOUND MARK"),
  (0x309C, "KATAKANA-HIRAGANA SEMI-VOICED SOUND MARK"), (0x309D, "HIRAGANA ITERATION MARK"),
  (0x309E, "HIRAGANA VOICED ITERATION MARK"), (0x309F, "HIRAGANA DIGRAPH YORI"),
  (0x30A0, "KATAKANA-HIRAGANA DOUBLE HYPHEN"), (0x30A1, "KATAKANA LETTER SMALL A"),
  (0x30A2, "KATAKANA LETTER A"), (0x30A3, "KATAKANA LETTER SMALL I"),
  (0x30A4, "KATAKANA LETTER I"), (0x30A5, "KATAKANA LETTER SMALL U"),
  (0x30A6, "KATAKANA LETTER U"), (0x30A7, "KATAKANA LETTER SMALL E"),
  (0x30A8, "KATAKANA LETTER E"), (0x30A9, "KATAKANA LETTER SMALL O"),
  (0x30AA, "KATAKANA LETTER O"), (0x30AB, "KATAKANA LETTER KA"), (0x30AC, "KATAKANA LETTER GA"),
  (0x30AD, "KATAKANA LETTER KI"), (0x30AE, "KATAKANA LETTER GI"), (0x30AF, "KATAKANA LETTER KU"),
  (0x30B0, "KATAKANA LETTER GU"), (0x30B1, "KATAKANA LETTER KE"), (0x30B2, "KATAKANA LETTER GE"),
  (0x30B3, "KATAKANA LETTER KO"), (0x30B4, "KATAKANA LETTER GO"), (0x30B5, "KATAKANA LETTER SA"),
  (0x30B6, "KATAKANA LETTER ZA"), (0x30B7, "KATAKANA LETTER SI"), (0x30B8, "KATAKANA LETTER ZI"),
  (0x30B9, "KATAKANA LETTER SU"), (0x30BA, "KATAKANA LETTER ZU"), (0x30BB, "KATAKANA LETTER SE"),
  (0x30BC, "KATAKANA LETTER ZE"), (0x30BD, "KATAKANA LETTER SO"), (0x30BE, "KATAKANA LETTER ZO"),
  (0x30BF, "KATAKANA LETTER TA"), (0x30C0, "KATAKANA LETTER DA"), (0x30C1, "KATAKANA LETTER TI"),
  (0x30C2, "KATAKANA LETTER DI"), (0x30C3, "KATAKANA LETTER SMALL TU"),
  (0x30C4, "KATAKANA LETTER TU"), (0x30C5, "KATAKANA LETTER DU"), (0x30C6, "KATAKANA LETTER TE"),
  (0x30C7, "KATAKANA LETTER DE"), (0x30C8, "KATAKANA LETTER TO"), (0x30C9, "KATAKANA LETTER DO"),
  (0x30CA, "KATAKANA LETTER NA"), (0x30CB, "KATAKANA LETTER NI"), (0x30CC, "KATAKANA LETTER NU"),
  (0x30CD, "KATAKANA LETTER NE"), (0x30CE, "KATAKANA LETTER NO"), (0x30CF, "KATAKANA LETTER HA"),
  (0x30D0, "KATAKANA LETTER BA"), (0x30D1, "KATAKANA LETTER PA"), (0x30D2, "KATAKANA LETTER HI"),
  (0x30D3, "KATAKANA LETTER BI"), (0x30D4, "KATAKANA LETTER PI"), (0x30D5, "KATAKANA LETTER HU"),
  (0x30D6, "KATAKANA LETTER BU"), (0x30D7, "KATAKANA LETTER PU"), (0x30D8, "KATAKANA LETTER HE"),
  (0x30D9, "KATAKANA LETTER BE"), (0x30DA, "KATAKANA LETTER PE"), (0x30DB, "KATAKANA LETTER HO"),
  (0x30DC, "KATAKANA LETTER BO"), (0x30DD, "KATAKANA LETTER PO"), (0x30DE, "KATAKANA LETTER MA"),
  (0x30DF, "KATAKANA LETTER MI"), (0x30E0, "KATAKANA LETTER MU"), (0x30E1, "KATAKANA LETTER ME"),
  (0x30E2, "KATAKANA LETTER MO"), (0x30E3, "KATAKANA LETTER SMALL YA"),
  (0x30E4, "KATAKANA LETTER YA"), (0x30E5, "KATAKANA LETTER SMALL YU"),
  (0x30E6, "KATAKANA LETTER YU"), (0x30E7, "KATAKANA LETTER SMALL YO"),
  (0x30E8, "KATAKANA LETTER YO"), (0x30E9, "KATAKANA LETTER RA"), (0x30EA, "KATAKANA LETTER RI"),
  (0x30EB, "KATAKANA LETTER RU"), (0x30EC, "KATAKANA LETTER RE"), (0x30ED, "KATAKANA LETTER RO"),
  (0x30EE, "KATAKANA LETTER SMALL WA"), (0x30EF, "KATAKANA LETTER WA"),
  (0x30F0, "KATAKANA LETTER WI"), (0x30F1, "KATAKANA LETTER WE"), (0x30F2, "KATAKANA LETTER WO"),
  (0x30F3, "KATAKANA LETTER N"), (0x30F4, "KATAKANA LETTER VU"),
  (0x30F5, "KATAKANA LETTER SMALL KA"), (0x30F6, "KATAKANA LETTER SMALL KE"),
  (0x30F7, "KATAKANA LETTER VA"), (0x30F8, "KATAKANA LETTER VI"), (0x30F9, "KATAKANA LETTER VE"),
  (0x30FA, "KATAKANA LETTER VO"), (0x30FB, "KATAKANA MIDDLE DOT"),
  (0x30FC, "KATAKANA-HIRAGANA PROLONGED SOUND MARK"), (0x30FD, "KATAKANA ITERATION MARK"),
  (0x30FE, "KATAKANA VOICED ITERATION MARK"), (0x30FF, "KATAKANA DIGRAPH KOTO")]

/-- Names of marks. -/
def specialsNames : List (Nat × String) := [
  (0xFEFF, "ZERO WIDTH NO-BREAK SPACE"), (0xFFFD, "REPLACEMENT CHARACTER")]

/-- Names of full-width forms. -/
def fullwidthNames : List (Nat × String) := [
  (0xFF01, "FULLWIDTH EXCLAMATION MARK"), (0xFF02, "FULLWIDTH QUOTATION MARK"),
  (0xFF03, "FULLWIDTH NUMBER SIGN"), (0xFF04, "FULLWIDTH DOLLAR SIGN"),
  (0xFF05, "FULLWIDTH PERCENT SIGN"), (0xFF06, "FULLWIDTH AMPERSAND"),
  (0xFF07, "FULLWIDTH APOSTROPHE"), (0xFF08, "FULLWIDTH LEFT PARENTHESIS"),
  (0xFF09, "FULLWIDTH RIGHT PARENTHESIS"), (0xFF0A, "FULLWIDTH ASTERISK"),
  (0xFF0B, "FULLWIDTH PLUS SIGN"), (0xFF0C, "FULLWIDTH COMMA"),
  (0xFF0D, "FULLWIDTH HYPHEN-MINUS"), (0xFF0E, "FULLWIDTH FULL STOP"),
  (0xFF0F, "FULLWIDTH SOLIDUS"), (0xFF10, "FULLWIDTH DIGIT ZERO"),
  (0xFF11, "FULLWIDTH DIGIT ONE"), (0xFF12, "FULLWIDTH DIGIT TWO"),
  (0xFF13, "FULLWIDTH DIGIT THREE"), (0xFF14, "FULLWIDTH DIGIT FOUR"),
  (0xFF15, "FULLWIDTH DIGIT FIVE"), (0xFF16, "FULLWIDTH DIGIT SIX"),
  (0xFF17, "FULLWIDTH DIGIT SEVEN"), (0xFF18, "FULLWIDTH DIGIT EIGHT"),
  (0xFF19, "FULLWIDTH DIGIT NINE"), (0xFF1A, "FULLWIDTH COLON"), (0xFF1B, "FULLWIDTH SEMICOLON"),
  (0xFF1C, "FULLWIDTH LESS-THAN SIGN"), (0xFF1D, "FULLWIDTH EQUALS SIGN"),
  (0xFF1E, "FULLWIDTH GREATER-THAN SIGN"), (0xFF1F, "FULLWIDTH QUESTION MARK"),
  (0xFF20, "FULLWIDTH COMMERCIAL AT"), (0xFF21, "FULLWIDTH LATIN CAPITAL LETTER A"),
  (0xFF22, "FULLWIDTH LATIN CAPITAL LETTER B"), (0xFF23, "FULLWIDTH LATIN CAPITAL LETTER C"),
  (0xFF24, "FULLWIDTH LATIN CAPITAL LETTER D"), (0xFF25, "FULLWIDTH LATIN CAPITAL LETTER E"),
  (0xFF26, "FULLWIDTH LATIN CAPITAL LETTER F"), (0xFF27, "FULLWIDTH LATIN CAPITAL LETTER G"),
  (0xFF28, "FULLWIDTH LATIN CAPITAL LETTER H"), (0xFF29, "FULLWIDTH LATIN CAPITAL LETTER I"),
  (0xFF2A, "FULLWIDTH LATIN CAPITAL LETTER J"), (0xFF2B, "FULLWIDTH LATIN CAPITAL LETTER K"),
  (0xFF2C, "FULLWIDTH LATIN CAPITAL LETTER L"), (0xFF2D, "FULLWIDTH LATIN CAPITAL LETTER M"),
  (0xFF2E, "FULLWIDTH LATIN CAPITAL LETTER N"), (0xFF2F, "FULLWIDTH LATIN CAPITAL LETTER O"),
  (0xFF30, "FULLWIDTH LATIN CAPITAL LETTER P"), (0xFF31, "FULLWIDTH LATIN CAPITAL LETTER Q"),
  (0xFF32, "FULLWIDTH LATIN CAPITAL LETTER R"), (0xFF33, "FULLWIDTH LATIN CAPITAL LETTER S"),
  (0xFF34, "FULLWIDTH LATIN CAPITAL LETTER T"), (0xFF35, "FULLWIDTH LATIN CAPITAL LETTER U"),
  (0xFF36, "FULLWIDTH LATIN CAPITAL LETTER V"), (0xFF37, "FULLWIDTH LATIN CAPITAL LETTER W"),
  (0xFF38, "FULLWIDTH LATIN CAPITAL LETTER X"), (0xFF39, "FULLWIDTH LATIN CAPITAL LETTER Y"),
  (0xFF3A, "FULLWIDTH LATIN CAPITAL LETTER Z"), (0xFF3B, "FULLWIDTH LEFT SQUARE BRACKET"),
  (0xFF3C, "FULLWIDTH REVERSE SOLIDUS"), (0xFF3D, "FULLWIDTH RIGHT SQUARE BRACKET"),
  (0xFF3E, "FULLWIDTH CIRCUMFLEX ACCENT"), (0xFF3F, "FULLWIDTH LOW LINE"),
  (0xFF40, "FULLWIDTH GRAVE ACCENT"), (0xFF41, "FULLWIDTH LATIN SMALL LETTER A"),
  (0xFF42, "FULLWIDTH LATIN SMALL LETTER B"), (0xFF43, "FULLWIDTH LATIN SMALL LETTER C"),
  (0xFF44, "FULLWIDTH LATIN SMALL LETTER D"), (0xFF45, "FULLWIDTH LATIN SMALL LETTER E"),
  (0xFF46, "FULLWIDTH LATIN SMALL LETTER F"), (0xFF47, "FULLWIDTH LATIN SMALL LETTER G"),
  (0xFF48, "FULLWIDTH LATIN SMALL LETTER H"), (0xFF49, "FULLWIDTH LATIN SMALL LETTER I"),
  (0xFF4A, "FULLWIDTH LATIN SMALL LETTER J"), (0xFF4B, "FULLWIDTH LATIN SMALL LETTER K"),
  (0xFF4C, "FULLWIDTH LATIN SMALL LETTER L"), (0xFF4D, "FULLWIDTH LATIN SMALL LETTER M"),
  (0xFF4E, "FULLWIDTH LATIN SMALL LETTER N"), (0xFF4F, "FULLWIDTH LATIN SMALL LETTER O"),
  (0xFF50, "FULLWIDTH LATIN SMALL LETTER P"), (0xFF51, "FULLWIDTH LATIN SMALL LETTER Q"),
  (0xFF52, "FULLWIDTH LATIN SMALL LETTER R"), (0xFF53, "FULLWIDTH LATIN SMALL LETTER S"),
  (0xFF54, "FULLWIDTH LATIN SMALL LETTER T"), (0xFF55, "FULLWIDTH LATIN SMALL LETTER U"),
  (0xFF56, "FULLWIDTH LATIN SMALL LETTER V"), (0xFF57, "FULLWIDTH LATIN SMALL LETTER W"),
  (0xFF58, "FULLWIDTH LATIN SMALL LETTER X"), (0xFF59, "FULLWIDTH LATIN SMALL LETTER Y"),
  (0xFF5A, "FULLWIDTH LATIN SMALL LETTER Z"), (0xFF5B, "FULLWIDTH LEFT CURLY BRACKET"),
  (0xFF5C, "FULLWIDTH VERTICAL LINE"), (0xFF5D, "FULLWIDTH RIGHT CURLY BRACKET"),
  (0xFF5E, "FULLWIDTH TILDE")]

/-- Names of emoticons. -/
def emoticonsNames : List (Nat × String) := [
  (0x1F600, "GRINNING FACE"), (0x1F601, "GRINNING FACE WITH SMILING EYES"),
  (0x1F602, "FACE WITH TEARS OF JOY"), (0x1F603, "SMILING FACE WITH OPEN MOUTH"),
  (0x1F604, "SMILING FACE WITH OPEN MOUTH AND SMILING EYES"),
  (0x1F605, "SMILING FACE WITH OPEN MOUTH AND COLD SWEAT"),
  (0x1F606, "SMILING FACE WITH OPEN MOUTH AND TIGHTLY-CLOSED EYES"),
  (0x1F607, "SMILING FACE WITH HALO"), (0x1F608, "SMILING FACE WITH HORNS"),
  (0x1F609, "WINKING FACE"), (0x1F60A, "SMILING FACE WITH SMILING EYES"),
  (0x1F60B, "FACE SAVOURING DELICIOUS FOOD"), (0x1F60C, "RELIEVED FACE"),
  (0x1F60D, "SMILING FACE WITH HEART-SHAPED EYES"), (0x1F60E, "SMILING FACE WITH SUNGLASSES"),
  (0x1F60F, "SMIRKING FACE"), (0x1F610, "NEUTRAL FACE"), (0x1F611, "EXPRESSIONLESS FACE"),
  (0x1F612, "UNAMUSED FACE"), (0x1F613, "FACE WITH COLD SWEAT"), (0x1F614, "PENSIVE FACE"),
  (0x1F615, "CONFUSED FACE"), (0x1F616, "CONFOUNDED FACE"), (0x1F617, "KISSING FACE"),
  (0x1F618, "FACE THROWING A KISS"), (0x1F619, "KISSING FACE WITH SMILING EYES"),
  (0x1F61A, "KISSING FACE WITH CLOSED EYES"), (0x1F61B, "FACE WITH STUCK-OUT TONGUE"),
  (0x1F61C, "FACE WITH STUCK-OUT TONGUE AND WINKING EYE"),
  (0x1F61D, "FACE WITH STUCK-OUT TONGUE AND TIGHTLY-CLOSED EYES"), (0x1F61E, "DISAPPOINTED FACE"),
  (0x1F61F, "WORRIED FACE"), (0x1F620, "ANGRY FACE"), (0x1F621, "POUTING FACE"),
  (0x1F622, "CRYING FACE"), (0x1F623, "PERSEVERING FACE"), (0x1F624, "FACE WITH LOOK OF TRIUMPH"),
  (0x1F625, "DISAPPOINTED BUT RELIEVED FACE"), (0x1F626, "FROWNING FACE WITH OPEN MOUTH"),
  (0x1F627, "ANGUISHED FACE"), (0x1F628, "FEARFUL FACE"), (0x1F629, "WEARY FACE"),
  (0x1F62A, "SLEEPY FACE"), (0x1F62B, "TIRED FACE"), (0x1F62C, "GRIMACING FACE"),
  (0x1F62D, "LOUDLY CRYING FACE"), (0x1F62E, "FACE WITH OPEN MOUTH"), (0x1F62F, "HUSHED FACE"),
  (0x1F630, "FACE WITH OPEN MOUTH AND COLD SWEAT"), (0x1F631, "FACE SCREAMING IN FEAR"),
  (0x1F632, "ASTONISHED FACE"), (0x1F633, "FLUSHED FACE"), (0x1F634, "SLEEPING FACE"),
  (0x1F635, "DIZZY FACE"), (0x1F636, "FACE WITHOUT MOUTH"), (0x1F637, "FACE WITH MEDICAL MASK"),
  (0x1F638, "GRINNING CAT FACE WITH SMILING EYES"), (0x1F639, "CAT FACE WITH TEARS OF JOY"),
  (0x1F63A, "SMILING CAT FACE WITH OPEN MOUTH"),
  (0x1F63B, "SMILING CAT FACE WITH HEART-SHAPED EYES"), (0x1F63C, "CAT FACE WITH WRY SMILE"),
  (0x1F63D, "KISSING CAT FACE WITH CLOSED EYES"), (0x1F63E, "POUTING CAT FACE"),
  (0x1F63F, "CRYING CAT FACE"), (0x1F640, "WEARY CAT FACE"), (0x1F641, "SLIGHTLY FROWNING FACE"),
  (0x1F642, "SLIGHTLY SMILING FACE"), (0x1F643, "UPSIDE-DOWN FACE"),
  (0x1F644, "FACE WITH ROLLING EYES"), (0x1F645, "FACE WITH NO GOOD GESTURE"),
  (0x1F646, "FACE WITH OK GESTURE"), (0x1F647, "PERSON BOWING DEEPLY"),
  (0x1F648, "SEE-NO-EVIL MONKEY"), (0x1F649, "HEAR-NO-EVIL MONKEY"),
  (0x1F64A, "SPEAK-NO-EVIL MONKEY"), (0x1F64B, "HAPPY PERSON RAISING ONE HAND"),
  (0x1F64C, "PERSON RAISING BOTH HANDS IN CELEBRATION"), (0x1F64D, "PERSON FROWNING"),
  (0x1F64E, "PERSON WITH POUTING FACE"), (0x1F64F, "PERSON WITH FOLDED HANDS")]

/-- All listed names, block by block. -/
def nameTables : List (List (Nat × String)) := [
  latinNames, modifierNames, greekCyrillicNames, hebrewNames, arabicNames, punctuationNames,
  currencyNames, letterlikeNames, arrowsNames, operatorsNames, shapeNames, kanaNames,
  specialsNames, fullwidthNames, emoticonsNames]

/-- Leading consonants of Hangul syllable names. -/
def hangulLeads : List String := ["G", "GG", "N", "D", "DD", "R", "M", "B", "BB", "S", "SS", "",
  "J", "JJ", "C", "K", "T", "P", "H"]

/-- Vowels of Hangul syllable names. -/
def hangulVowels : List String := ["A", "AE", "YA", "YAE", "EO", "E", "YEO", "YE", "O", "WA", "WAE",
  "OE", "YO", "U", "WEO", "WE", "WI", "YU", "EU", "YI", "I"]

/-- Trailing consonants of Hangul syllable names. -/
def hangulTails : List String := ["", "G", "GG", "GS", "N", "NJ", "NH", "D", "L", "LG", "LM", "LB",
  "LS", "LT", "LP", "LH", "M", "B", "BS", "S", "SS", "NG", "J", "C", "K", "T", "P", "H"]

/-- Inclusive ranges of the unified ideographs. -/
def ideographRanges : List (Nat × Nat) := [(0x3400, 0x4DBF), (0x4E00, 0x9FFF), (0x20000, 0x2A6DF),
  (0x2A700, 0x2B738), (0x2B740, 0x2B81D), (0x2B820, 0x2CEA1), (0x2CEB0, 0x2EBE0),
  (0x30000, 0x3134A)]

/-- The name of a code point, if it is listed or follows a rule. -/
def name? (c : CodePoint) : Option Text :=
  match nameTables.findSome? fun table : List (Nat × String) => table.lookup c.val with
  | some name => some name
  | none =>
    if ideographRanges.any fun (first, last) => first ≤ c.val && c.val ≤ last then
      some ("CJK UNIFIED IDEOGRAPH-" ++ (Nat.toDigits 16 c.val).map fun d => ofChar d.toUpper)
    else if 0xAC00 ≤ c.val ∧ c.val ≤ 0xD7A3 then
      let index := c.val - 0xAC00
      let lead := hangulLeads.getD (index / 588) ""
      let vowel := hangulVowels.getD (index % 588 / 28) ""
      let tail := hangulTails.getD (index % 28) ""
      some (Text.ofString ("HANGUL SYLLABLE " ++ lead ++ vowel ++ tail))
    else none

end WideColumn.CodePoint
