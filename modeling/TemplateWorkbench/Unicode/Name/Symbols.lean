/-!
# Names of characters: symbols

The names of the characters from 1E00 to 2BFF, for extended letters, punctuation and symbols.
-/

namespace TemplateWorkbench.Unicode

/-- The names for extended letters, punctuation and symbols, in lines. -/
def symbolNames : List String := [
  "=1E00,LATIN CAPITAL LETTER A WITH RING BELOW,1SMALL LETTER A WITH RING BELOW",
  "1CAPITAL LETTER B WITH DOT ABOVE,1SMALL LETTER B WITH DOT ABOVE",
  "1CAPITAL LETTER B WITH DOT BELOW,1SMALL LETTER B WITH DOT BELOW",
  "1CAPITAL LETTER B WITH LINE BELOW,1SMALL LETTER B WITH LINE BELOW",
  "1CAPITAL LETTER C WITH CEDILLA AND ACUTE,1SMALL LETTER C WITH CEDILLA AND ACUTE",
  "1CAPITAL LETTER D WITH DOT ABOVE,1SMALL LETTER D WITH DOT ABOVE",
  "1CAPITAL LETTER D WITH DOT BELOW,1SMALL LETTER D WITH DOT BELOW",
  "1CAPITAL LETTER D WITH LINE BELOW,1SMALL LETTER D WITH LINE BELOW",
  "1CAPITAL LETTER D WITH CEDILLA,1SMALL LETTER D WITH CEDILLA",
  "1CAPITAL LETTER D WITH CIRCUMFLEX BELOW,1SMALL LETTER D WITH CIRCUMFLEX BELOW",
  "1CAPITAL LETTER E WITH MACRON AND GRAVE,1SMALL LETTER E WITH MACRON AND GRAVE",
  "1CAPITAL LETTER E WITH MACRON AND ACUTE,1SMALL LETTER E WITH MACRON AND ACUTE",
  "1CAPITAL LETTER E WITH CIRCUMFLEX BELOW,1SMALL LETTER E WITH CIRCUMFLEX BELOW",
  "1CAPITAL LETTER E WITH TILDE BELOW,1SMALL LETTER E WITH TILDE BELOW",
  "1CAPITAL LETTER E WITH CEDILLA AND BREVE,1SMALL LETTER E WITH CEDILLA AND BREVE",
  "1CAPITAL LETTER F WITH DOT ABOVE,1SMALL LETTER F WITH DOT ABOVE,1CAPITAL LETTER G WITH MACRON",
  "1SMALL LETTER G WITH MACRON,1CAPITAL LETTER H WITH DOT ABOVE,1SMALL LETTER H WITH DOT ABOVE",
  "1CAPITAL LETTER H WITH DOT BELOW,1SMALL LETTER H WITH DOT BELOW",
  "1CAPITAL LETTER H WITH DIAERESIS,1SMALL LETTER H WITH DIAERESIS,1CAPITAL LETTER H WITH CEDILLA",
  "1SMALL LETTER H WITH CEDILLA,1CAPITAL LETTER H WITH BREVE BELOW",
  "1SMALL LETTER H WITH BREVE BELOW,1CAPITAL LETTER I WITH TILDE BELOW",
  "1SMALL LETTER I WITH TILDE BELOW,1CAPITAL LETTER I WITH DIAERESIS AND ACUTE",
  "1SMALL LETTER I WITH DIAERESIS AND ACUTE,1CAPITAL LETTER K WITH ACUTE",
  "1SMALL LETTER K WITH ACUTE,1CAPITAL LETTER K WITH DOT BELOW,1SMALL LETTER K WITH DOT BELOW",
  "1CAPITAL LETTER K WITH LINE BELOW,1SMALL LETTER K WITH LINE BELOW",
  "1CAPITAL LETTER L WITH DOT BELOW,1SMALL LETTER L WITH DOT BELOW",
  "1CAPITAL LETTER L WITH DOT BELOW AND MACRON,1SMALL LETTER L WITH DOT BELOW AND MACRON",
  "1CAPITAL LETTER L WITH LINE BELOW,1SMALL LETTER L WITH LINE BELOW",
  "1CAPITAL LETTER L WITH CIRCUMFLEX BELOW,1SMALL LETTER L WITH CIRCUMFLEX BELOW",
  "1CAPITAL LETTER M WITH ACUTE,1SMALL LETTER M WITH ACUTE,1CAPITAL LETTER M WITH DOT ABOVE",
  "1SMALL LETTER M WITH DOT ABOVE,1CAPITAL LETTER M WITH DOT BELOW,1SMALL LETTER M WITH DOT BELOW",
  "1CAPITAL LETTER N WITH DOT ABOVE,1SMALL LETTER N WITH DOT ABOVE",
  "1CAPITAL LETTER N WITH DOT BELOW,1SMALL LETTER N WITH DOT BELOW",
  "1CAPITAL LETTER N WITH LINE BELOW,1SMALL LETTER N WITH LINE BELOW",
  "1CAPITAL LETTER N WITH CIRCUMFLEX BELOW,1SMALL LETTER N WITH CIRCUMFLEX BELOW",
  "1CAPITAL LETTER O WITH TILDE AND ACUTE,1SMALL LETTER O WITH TILDE AND ACUTE",
  "1CAPITAL LETTER O WITH TILDE AND DIAERESIS,1SMALL LETTER O WITH TILDE AND DIAERESIS",
  "1CAPITAL LETTER O WITH MACRON AND GRAVE,1SMALL LETTER O WITH MACRON AND GRAVE",
  "1CAPITAL LETTER O WITH MACRON AND ACUTE,1SMALL LETTER O WITH MACRON AND ACUTE",
  "1CAPITAL LETTER P WITH ACUTE,1SMALL LETTER P WITH ACUTE,1CAPITAL LETTER P WITH DOT ABOVE",
  "1SMALL LETTER P WITH DOT ABOVE,1CAPITAL LETTER R WITH DOT ABOVE,1SMALL LETTER R WITH DOT ABOVE",
  "1CAPITAL LETTER R WITH DOT BELOW,1SMALL LETTER R WITH DOT BELOW",
  "1CAPITAL LETTER R WITH DOT BELOW AND MACRON,1SMALL LETTER R WITH DOT BELOW AND MACRON",
  "1CAPITAL LETTER R WITH LINE BELOW,1SMALL LETTER R WITH LINE BELOW",
  "1CAPITAL LETTER S WITH DOT ABOVE,1SMALL LETTER S WITH DOT ABOVE",
  "1CAPITAL LETTER S WITH DOT BELOW,1SMALL LETTER S WITH DOT BELOW",
  "1CAPITAL LETTER S WITH ACUTE AND DOT ABOVE,1SMALL LETTER S WITH ACUTE AND DOT ABOVE",
  "1CAPITAL LETTER S WITH CARON AND DOT ABOVE,1SMALL LETTER S WITH CARON AND DOT ABOVE",
  "1CAPITAL LETTER S WITH DOT BELOW AND DOT ABOVE,1SMALL LETTER S WITH DOT BELOW AND DOT ABOVE",
  "1CAPITAL LETTER T WITH DOT ABOVE,1SMALL LETTER T WITH DOT ABOVE",
  "1CAPITAL LETTER T WITH DOT BELOW,1SMALL LETTER T WITH DOT BELOW",
  "1CAPITAL LETTER T WITH LINE BELOW,1SMALL LETTER T WITH LINE BELOW",
  "1CAPITAL LETTER T WITH CIRCUMFLEX BELOW,1SMALL LETTER T WITH CIRCUMFLEX BELOW",
  "1CAPITAL LETTER U WITH DIAERESIS BELOW,1SMALL LETTER U WITH DIAERESIS BELOW",
  "1CAPITAL LETTER U WITH TILDE BELOW,1SMALL LETTER U WITH TILDE BELOW",
  "1CAPITAL LETTER U WITH CIRCUMFLEX BELOW,1SMALL LETTER U WITH CIRCUMFLEX BELOW",
  "1CAPITAL LETTER U WITH TILDE AND ACUTE,1SMALL LETTER U WITH TILDE AND ACUTE",
  "1CAPITAL LETTER U WITH MACRON AND DIAERESIS,1SMALL LETTER U WITH MACRON AND DIAERESIS",
  "1CAPITAL LETTER V WITH TILDE,1SMALL LETTER V WITH TILDE,1CAPITAL LETTER V WITH DOT BELOW",
  "1SMALL LETTER V WITH DOT BELOW,1CAPITAL LETTER W WITH GRAVE,1SMALL LETTER W WITH GRAVE",
  "1CAPITAL LETTER W WITH ACUTE,1SMALL LETTER W WITH ACUTE,1CAPITAL LETTER W WITH DIAERESIS",
  "1SMALL LETTER W WITH DIAERESIS,1CAPITAL LETTER W WITH DOT ABOVE,1SMALL LETTER W WITH DOT ABOVE",
  "1CAPITAL LETTER W WITH DOT BELOW,1SMALL LETTER W WITH DOT BELOW",
  "1CAPITAL LETTER X WITH DOT ABOVE,1SMALL LETTER X WITH DOT ABOVE",
  "1CAPITAL LETTER X WITH DIAERESIS,1SMALL LETTER X WITH DIAERESIS",
  "1CAPITAL LETTER Y WITH DOT ABOVE,1SMALL LETTER Y WITH DOT ABOVE",
  "1CAPITAL LETTER Z WITH CIRCUMFLEX,1SMALL LETTER Z WITH CIRCUMFLEX",
  "1CAPITAL LETTER Z WITH DOT BELOW,1SMALL LETTER Z WITH DOT BELOW",
  "1CAPITAL LETTER Z WITH LINE BELOW,1SMALL LETTER Z WITH LINE BELOW,3H WITH LINE BELOW",
  "3T WITH DIAERESIS,3W WITH RING ABOVE,3Y WITH RING ABOVE,3A WITH RIGHT HALF RING",
  "3LONG S WITH DOT ABOVE,6DIAGONAL STROKE,6HIGH STROKE,1CAPITAL LETTER SHARP S",
  "1SMALL LETTER DELTA,1CAPITAL LETTER A WITH DOT BELOW,1SMALL LETTER A WITH DOT BELOW",
  "1CAPITAL LETTER A WITH HOOK ABOVE,1SMALL LETTER A WITH HOOK ABOVE",
  "1CAPITAL LETTER A WITH CIRCUMFLEX AND ACUTE,1SMALL LETTER A WITH CIRCUMFLEX AND ACUTE",
  "1CAPITAL LETTER A WITH CIRCUMFLEX AND GRAVE,1SMALL LETTER A WITH CIRCUMFLEX AND GRAVE",
  "1CAPITAL LETTER A WITH CIRCUMFLEX AND HOOK ABOVE",
  "1SMALL LETTER A WITH CIRCUMFLEX AND HOOK ABOVE,1CAPITAL LETTER A WITH CIRCUMFLEX AND TILDE",
  "1SMALL LETTER A WITH CIRCUMFLEX AND TILDE,1CAPITAL LETTER A WITH CIRCUMFLEX AND DOT BELOW",
  "1SMALL LETTER A WITH CIRCUMFLEX AND DOT BELOW,1CAPITAL LETTER A WITH BREVE AND ACUTE",
  "1SMALL LETTER A WITH BREVE AND ACUTE,1CAPITAL LETTER A WITH BREVE AND GRAVE",
  "1SMALL LETTER A WITH BREVE AND GRAVE,1CAPITAL LETTER A WITH BREVE AND HOOK ABOVE",
  "1SMALL LETTER A WITH BREVE AND HOOK ABOVE,1CAPITAL LETTER A WITH BREVE AND TILDE",
  "1SMALL LETTER A WITH BREVE AND TILDE,1CAPITAL LETTER A WITH BREVE AND DOT BELOW",
  "1SMALL LETTER A WITH BREVE AND DOT BELOW,1CAPITAL LETTER E WITH DOT BELOW",
  "1SMALL LETTER E WITH DOT BELOW,1CAPITAL LETTER E WITH HOOK ABOVE",
  "1SMALL LETTER E WITH HOOK ABOVE,1CAPITAL LETTER E WITH TILDE,1SMALL LETTER E WITH TILDE",
  "1CAPITAL LETTER E WITH CIRCUMFLEX AND ACUTE,1SMALL LETTER E WITH CIRCUMFLEX AND ACUTE",
  "1CAPITAL LETTER E WITH CIRCUMFLEX AND GRAVE,1SMALL LETTER E WITH CIRCUMFLEX AND GRAVE",
  "1CAPITAL LETTER E WITH CIRCUMFLEX AND HOOK ABOVE",
  "1SMALL LETTER E WITH CIRCUMFLEX AND HOOK ABOVE,1CAPITAL LETTER E WITH CIRCUMFLEX AND TILDE",
  "1SMALL LETTER E WITH CIRCUMFLEX AND TILDE,1CAPITAL LETTER E WITH CIRCUMFLEX AND DOT BELOW",
  "1SMALL LETTER E WITH CIRCUMFLEX AND DOT BELOW,1CAPITAL LETTER I WITH HOOK ABOVE",
  "1SMALL LETTER I WITH HOOK ABOVE,1CAPITAL LETTER I WITH DOT BELOW",
  "1SMALL LETTER I WITH DOT BELOW,1CAPITAL LETTER O WITH DOT BELOW,1SMALL LETTER O WITH DOT BELOW",
  "1CAPITAL LETTER O WITH HOOK ABOVE,1SMALL LETTER O WITH HOOK ABOVE",
  "1CAPITAL LETTER O WITH CIRCUMFLEX AND ACUTE,1SMALL LETTER O WITH CIRCUMFLEX AND ACUTE",
  "1CAPITAL LETTER O WITH CIRCUMFLEX AND GRAVE,1SMALL LETTER O WITH CIRCUMFLEX AND GRAVE",
  "1CAPITAL LETTER O WITH CIRCUMFLEX AND HOOK ABOVE",
  "1SMALL LETTER O WITH CIRCUMFLEX AND HOOK ABOVE,1CAPITAL LETTER O WITH CIRCUMFLEX AND TILDE",
  "1SMALL LETTER O WITH CIRCUMFLEX AND TILDE,1CAPITAL LETTER O WITH CIRCUMFLEX AND DOT BELOW",
  "1SMALL LETTER O WITH CIRCUMFLEX AND DOT BELOW,1CAPITAL LETTER O WITH HORN AND ACUTE",
  "1SMALL LETTER O WITH HORN AND ACUTE,1CAPITAL LETTER O WITH HORN AND GRAVE",
  "1SMALL LETTER O WITH HORN AND GRAVE,1CAPITAL LETTER O WITH HORN AND HOOK ABOVE",
  "1SMALL LETTER O WITH HORN AND HOOK ABOVE,1CAPITAL LETTER O WITH HORN AND TILDE",
  "1SMALL LETTER O WITH HORN AND TILDE,1CAPITAL LETTER O WITH HORN AND DOT BELOW",
  "1SMALL LETTER O WITH HORN AND DOT BELOW,1CAPITAL LETTER U WITH DOT BELOW",
  "1SMALL LETTER U WITH DOT BELOW,1CAPITAL LETTER U WITH HOOK ABOVE",
  "1SMALL LETTER U WITH HOOK ABOVE,1CAPITAL LETTER U WITH HORN AND ACUTE",
  "1SMALL LETTER U WITH HORN AND ACUTE,1CAPITAL LETTER U WITH HORN AND GRAVE",
  "1SMALL LETTER U WITH HORN AND GRAVE,1CAPITAL LETTER U WITH HORN AND HOOK ABOVE",
  "1SMALL LETTER U WITH HORN AND HOOK ABOVE,1CAPITAL LETTER U WITH HORN AND TILDE",
  "1SMALL LETTER U WITH HORN AND TILDE,1CAPITAL LETTER U WITH HORN AND DOT BELOW",
  "1SMALL LETTER U WITH HORN AND DOT BELOW,1CAPITAL LETTER Y WITH GRAVE",
  "1SMALL LETTER Y WITH GRAVE,1CAPITAL LETTER Y WITH DOT BELOW,1SMALL LETTER Y WITH DOT BELOW",
  "1CAPITAL LETTER Y WITH HOOK ABOVE,1SMALL LETTER Y WITH HOOK ABOVE,1CAPITAL LETTER Y WITH TILDE",
  "1SMALL LETTER Y WITH TILDE,1CAPITAL LETTER MIDDLE-WELSH LL,1SMALL LETTER MIDDLE-WELSH LL",
  "1CAPITAL LETTER MIDDLE-WELSH V,1SMALL LETTER MIDDLE-WELSH V,1CAPITAL LETTER Y WITH LOOP",
  "1SMALL LETTER Y WITH LOOP,GREEK SMALL LETTER ALPHA WITH PSILI,5DASIA,5PSILI AND VARIA",
  "5DASIA AND VARIA,5PSILI AND OXIA,5DASIA AND OXIA,5PSILI AND PERISPOMENI,5DASIA AND PERISPOMENI",
  "1CAPITAL LETTER ALPHA WITH PSILI,5DASIA,5PSILI AND VARIA,5DASIA AND VARIA,5PSILI AND OXIA",
  "5DASIA AND OXIA,5PSILI AND PERISPOMENI,5DASIA AND PERISPOMENI,1SMALL LETTER EPSILON WITH PSILI",
  "5DASIA,5PSILI AND VARIA,5DASIA AND VARIA,5PSILI AND OXIA,5DASIA AND OXIA,=1F18",
  "1CAPITAL LETTER EPSILON WITH PSILI,5DASIA,5PSILI AND VARIA,5DASIA AND VARIA,5PSILI AND OXIA",
  "5DASIA AND OXIA,=1F20,1SMALL LETTER ETA WITH PSILI,5DASIA,5PSILI AND VARIA,5DASIA AND VARIA",
  "5PSILI AND OXIA,5DASIA AND OXIA,5PSILI AND PERISPOMENI,5DASIA AND PERISPOMENI",
  "1CAPITAL LETTER ETA WITH PSILI,5DASIA,5PSILI AND VARIA,5DASIA AND VARIA,5PSILI AND OXIA",
  "5DASIA AND OXIA,5PSILI AND PERISPOMENI,5DASIA AND PERISPOMENI,1SMALL LETTER IOTA WITH PSILI",
  "5DASIA,5PSILI AND VARIA,5DASIA AND VARIA,5PSILI AND OXIA,5DASIA AND OXIA",
  "5PSILI AND PERISPOMENI,5DASIA AND PERISPOMENI,1CAPITAL LETTER IOTA WITH PSILI,5DASIA",
  "5PSILI AND VARIA,5DASIA AND VARIA,5PSILI AND OXIA,5DASIA AND OXIA,5PSILI AND PERISPOMENI",
  "5DASIA AND PERISPOMENI,1SMALL LETTER OMICRON WITH PSILI,5DASIA,5PSILI AND VARIA",
  "5DASIA AND VARIA,5PSILI AND OXIA,5DASIA AND OXIA,=1F48,1CAPITAL LETTER OMICRON WITH PSILI",
  "5DASIA,5PSILI AND VARIA,5DASIA AND VARIA,5PSILI AND OXIA,5DASIA AND OXIA,=1F50",
  "1SMALL LETTER UPSILON WITH PSILI,5DASIA,5PSILI AND VARIA,5DASIA AND VARIA,5PSILI AND OXIA",
  "5DASIA AND OXIA,5PSILI AND PERISPOMENI,5DASIA AND PERISPOMENI,=1F59",
  "1CAPITAL LETTER UPSILON WITH DASIA,=1F5B,6AND VARIA,=1F5D,7OXIA,=1F5F,7PERISPOMENI",
  "1SMALL LETTER OMEGA WITH PSILI,5DASIA,5PSILI AND VARIA,5DASIA AND VARIA,5PSILI AND OXIA",
  "5DASIA AND OXIA,5PSILI AND PERISPOMENI,5DASIA AND PERISPOMENI,1CAPITAL LETTER OMEGA WITH PSILI",
  "5DASIA,5PSILI AND VARIA,5DASIA AND VARIA,5PSILI AND OXIA,5DASIA AND OXIA",
  "5PSILI AND PERISPOMENI,5DASIA AND PERISPOMENI,1SMALL LETTER ALPHA WITH VARIA,5OXIA",
  "3EPSILON WITH VARIA,5OXIA,3ETA WITH VARIA,5OXIA,3IOTA WITH VARIA,5OXIA,3OMICRON WITH VARIA",
  "5OXIA,3UPSILON WITH VARIA,5OXIA,3OMEGA WITH VARIA,5OXIA,=1F80",
  "3ALPHA WITH PSILI AND YPOGEGRAMMENI,5DASIA AND YPOGEGRAMMENI",
  "5PSILI AND VARIA AND YPOGEGRAMMENI,5DASIA AND VARIA AND YPOGEGRAMMENI",
  "5PSILI AND OXIA AND YPOGEGRAMMENI,5DASIA AND OXIA AND YPOGEGRAMMENI",
  "5PSILI AND PERISPOMENI AND YPOGEGRAMMENI,5DASIA AND PERISPOMENI AND YPOGEGRAMMENI",
  "1CAPITAL LETTER ALPHA WITH PSILI AND PROSGEGRAMMENI,5DASIA AND PROSGEGRAMMENI",
  "5PSILI AND VARIA AND PROSGEGRAMMENI,5DASIA AND VARIA AND PROSGEGRAMMENI",
  "5PSILI AND OXIA AND PROSGEGRAMMENI,5DASIA AND OXIA AND PROSGEGRAMMENI",
  "5PSILI AND PERISPOMENI AND PROSGEGRAMMENI,5DASIA AND PERISPOMENI AND PROSGEGRAMMENI",
  "1SMALL LETTER ETA WITH PSILI AND YPOGEGRAMMENI,5DASIA AND YPOGEGRAMMENI",
  "5PSILI AND VARIA AND YPOGEGRAMMENI,5DASIA AND VARIA AND YPOGEGRAMMENI",
  "5PSILI AND OXIA AND YPOGEGRAMMENI,5DASIA AND OXIA AND YPOGEGRAMMENI",
  "5PSILI AND PERISPOMENI AND YPOGEGRAMMENI,5DASIA AND PERISPOMENI AND YPOGEGRAMMENI",
  "1CAPITAL LETTER ETA WITH PSILI AND PROSGEGRAMMENI,5DASIA AND PROSGEGRAMMENI",
  "5PSILI AND VARIA AND PROSGEGRAMMENI,5DASIA AND VARIA AND PROSGEGRAMMENI",
  "5PSILI AND OXIA AND PROSGEGRAMMENI,5DASIA AND OXIA AND PROSGEGRAMMENI",
  "5PSILI AND PERISPOMENI AND PROSGEGRAMMENI,5DASIA AND PERISPOMENI AND PROSGEGRAMMENI",
  "1SMALL LETTER OMEGA WITH PSILI AND YPOGEGRAMMENI,5DASIA AND YPOGEGRAMMENI",
  "5PSILI AND VARIA AND YPOGEGRAMMENI,5DASIA AND VARIA AND YPOGEGRAMMENI",
  "5PSILI AND OXIA AND YPOGEGRAMMENI,5DASIA AND OXIA AND YPOGEGRAMMENI",
  "5PSILI AND PERISPOMENI AND YPOGEGRAMMENI,5DASIA AND PERISPOMENI AND YPOGEGRAMMENI",
  "1CAPITAL LETTER OMEGA WITH PSILI AND PROSGEGRAMMENI,5DASIA AND PROSGEGRAMMENI",
  "5PSILI AND VARIA AND PROSGEGRAMMENI,5DASIA AND VARIA AND PROSGEGRAMMENI",
  "5PSILI AND OXIA AND PROSGEGRAMMENI,5DASIA AND OXIA AND PROSGEGRAMMENI",
  "5PSILI AND PERISPOMENI AND PROSGEGRAMMENI,5DASIA AND PERISPOMENI AND PROSGEGRAMMENI",
  "1SMALL LETTER ALPHA WITH VRACHY,5MACRON,5VARIA AND YPOGEGRAMMENI,5YPOGEGRAMMENI",
  "5OXIA AND YPOGEGRAMMENI,=1FB6,5PERISPOMENI,6AND YPOGEGRAMMENI",
  "1CAPITAL LETTER ALPHA WITH VRACHY,5MACRON,5VARIA,5OXIA,5PROSGEGRAMMENI,1KORONIS",
  "1PROSGEGRAMMENI,1PSILI,1PERISPOMENI,1DIALYTIKA AND PERISPOMENI",
  "1SMALL LETTER ETA WITH VARIA AND YPOGEGRAMMENI,5YPOGEGRAMMENI,5OXIA AND YPOGEGRAMMENI,=1FC6",
  "5PERISPOMENI,6AND YPOGEGRAMMENI,1CAPITAL LETTER EPSILON WITH VARIA,5OXIA,3ETA WITH VARIA,5OXIA",
  "5PROSGEGRAMMENI,1PSILI AND VARIA,3OXIA,3PERISPOMENI,1SMALL LETTER IOTA WITH VRACHY,5MACRON",
  "5DIALYTIKA AND VARIA,7OXIA,=1FD6,5PERISPOMENI,5DIALYTIKA AND PERISPOMENI",
  "1CAPITAL LETTER IOTA WITH VRACHY,5MACRON,5VARIA,5OXIA,=1FDD,1DASIA AND VARIA,3OXIA",
  "3PERISPOMENI,1SMALL LETTER UPSILON WITH VRACHY,5MACRON,5DIALYTIKA AND VARIA,7OXIA",
  "3RHO WITH PSILI,5DASIA,3UPSILON WITH PERISPOMENI,5DIALYTIKA AND PERISPOMENI",
  "1CAPITAL LETTER UPSILON WITH VRACHY,5MACRON,5VARIA,5OXIA,3RHO WITH DASIA,1DIALYTIKA AND VARIA",
  "3OXIA,1VARIA,=1FF2,1SMALL LETTER OMEGA WITH VARIA AND YPOGEGRAMMENI,5YPOGEGRAMMENI",
  "5OXIA AND YPOGEGRAMMENI,=1FF6,5PERISPOMENI,6AND YPOGEGRAMMENI",
  "1CAPITAL LETTER OMICRON WITH VARIA,5OXIA,3OMEGA WITH VARIA,5OXIA,5PROSGEGRAMMENI,1OXIA,1DASIA",
  "=2000,EN QUAD,EM QUAD,EN SPACE,EM SPACE,THREE-PER-EM SPACE,FOUR-PER-EM SPACE,SIX-PER-EM SPACE",
  "FIGURE SPACE,PUNCTUATION SPACE,THIN SPACE,HAIR SPACE,ZERO WIDTH SPACE,2NON-JOINER,2JOINER",
  "LEFT-TO-RIGHT MARK,RIGHT-TO-LEFT MARK,HYPHEN,NON-BREAKING HYPHEN,FIGURE DASH,EN DASH,EM DASH",
  "HORIZONTAL BAR,DOUBLE VERTICAL LINE,1LOW LINE,LEFT SINGLE QUOTATION MARK",
  "RIGHT SINGLE QUOTATION MARK,SINGLE LOW-9 QUOTATION MARK,1HIGH-REVERSED-9 QUOTATION MARK",
  "LEFT DOUBLE QUOTATION MARK,RIGHT DOUBLE QUOTATION MARK,DOUBLE LOW-9 QUOTATION MARK",
  "1HIGH-REVERSED-9 QUOTATION MARK,DAGGER,DOUBLE DAGGER,BULLET,TRIANGULAR BULLET,ONE DOT LEADER",
  "TWO DOT LEADER,HORIZONTAL ELLIPSIS,HYPHENATION POINT,LINE SEPARATOR,PARAGRAPH SEPARATOR",
  "LEFT-TO-RIGHT EMBEDDING,RIGHT-TO-LEFT EMBEDDING,POP DIRECTIONAL FORMATTING",
  "LEFT-TO-RIGHT OVERRIDE,RIGHT-TO-LEFT OVERRIDE,NARROW NO-BREAK SPACE,PER MILLE SIGN",
  "1TEN THOUSAND SIGN,PRIME,DOUBLE PRIME,TRIPLE PRIME,REVERSED PRIME,1DOUBLE PRIME,1TRIPLE PRIME",
  "CARET,SINGLE LEFT-POINTING ANGLE QUOTATION MARK,1RIGHT-POINTING ANGLE QUOTATION MARK",
  "REFERENCE MARK,DOUBLE EXCLAMATION MARK,INTERROBANG,OVERLINE,UNDERTIE,CHARACTER TIE",
  "CARET INSERTION POINT,ASTERISM,HYPHEN BULLET,FRACTION SLASH,LEFT SQUARE BRACKET WITH QUILL",
  "RIGHT SQUARE BRACKET WITH QUILL,DOUBLE QUESTION MARK,QUESTION EXCLAMATION MARK",
  "EXCLAMATION QUESTION MARK,TIRONIAN SIGN ET,REVERSED PILCROW SIGN,BLACK LEFTWARDS BULLET",
  "1RIGHTWARDS BULLET,LOW ASTERISK,REVERSED SEMICOLON,CLOSE UP,TWO ASTERISKS ALIGNED VERTICALLY",
  "COMMERCIAL MINUS SIGN,SWUNG DASH,INVERTED UNDERTIE,FLOWER PUNCTUATION MARK",
  "THREE DOT PUNCTUATION,QUADRUPLE PRIME,FOUR DOT PUNCTUATION,FIVE DOT PUNCTUATION",
  "TWO DOT PUNCTUATION,FOUR DOT MARK,DOTTED CROSS,TRICOLON,VERTICAL FOUR DOTS",
  "MEDIUM MATHEMATICAL SPACE,WORD JOINER,FUNCTION APPLICATION,INVISIBLE TIMES,1SEPARATOR,1PLUS",
  "=2066,LEFT-TO-RIGHT ISOLATE,RIGHT-TO-LEFT ISOLATE,FIRST STRONG ISOLATE,POP DIRECTIONAL ISOLATE",
  "INHIBIT SYMMETRIC SWAPPING,ACTIVATE SYMMETRIC SWAPPING,INHIBIT ARABIC FORM SHAPING",
  "ACTIVATE ARABIC FORM SHAPING,NATIONAL DIGIT SHAPES,NOMINAL DIGIT SHAPES,SUPERSCRIPT ZERO",
  "1LATIN SMALL LETTER I,=2074,1FOUR,1FIVE,1SIX,1SEVEN,1EIGHT,1NINE,1PLUS SIGN,1MINUS",
  "1EQUALS SIGN,1LEFT PARENTHESIS,1RIGHT PARENTHESIS,1LATIN SMALL LETTER N,SUBSCRIPT ZERO,1ONE",
  "1TWO,1THREE,1FOUR,1FIVE,1SIX,1SEVEN,1EIGHT,1NINE,1PLUS SIGN,1MINUS,1EQUALS SIGN",
  "1LEFT PARENTHESIS,1RIGHT PARENTHESIS,=2090,LATIN SUBSCRIPT SMALL LETTER A,4E,4O,4X,4SCHWA,4H",
  "4K,4L,4M,4N,4P,4S,4T,=20A0,EURO-CURRENCY SIGN,COLON SIGN,CRUZEIRO SIGN,FRENCH FRANC SIGN",
  "LIRA SIGN,MILL SIGN,NAIRA SIGN,PESETA SIGN,RUPEE SIGN,WON SIGN,NEW SHEQEL SIGN,DONG SIGN",
  "EURO SIGN,KIP SIGN,TUGRIK SIGN,DRACHMA SIGN,GERMAN PENNY SIGN,PESO SIGN,GUARANI SIGN",
  "AUSTRAL SIGN,HRYVNIA SIGN,CEDI SIGN,LIVRE TOURNOIS SIGN,SPESMILO SIGN,TENGE SIGN",
  "INDIAN RUPEE SIGN,TURKISH LIRA SIGN,NORDIC MARK SIGN,MANAT SIGN,RUBLE SIGN,LARI SIGN",
  "BITCOIN SIGN,SOM SIGN,=20D0,COMBINING LEFT HARPOON ABOVE,1RIGHT HARPOON ABOVE",
  "1LONG VERTICAL LINE OVERLAY,1SHORT VERTICAL LINE OVERLAY,1ANTICLOCKWISE ARROW ABOVE",
  "1CLOCKWISE ARROW ABOVE,1LEFT ARROW ABOVE,1RIGHT ARROW ABOVE,1RING OVERLAY",
  "1CLOCKWISE RING OVERLAY,1ANTICLOCKWISE RING OVERLAY,1THREE DOTS ABOVE,1FOUR DOTS ABOVE",
  "1ENCLOSING CIRCLE,2SQUARE,2DIAMOND,2CIRCLE BACKSLASH,1LEFT RIGHT ARROW ABOVE,1ENCLOSING SCREEN",
  "2KEYCAP,2UPWARD POINTING TRIANGLE,1REVERSE SOLIDUS OVERLAY,1DOUBLE VERTICAL STROKE OVERLAY",
  "1ANNUITY SYMBOL,1TRIPLE UNDERDOT,1WIDE BRIDGE ABOVE,1LEFTWARDS ARROW OVERLAY",
  "1LONG DOUBLE SOLIDUS OVERLAY,1RIGHTWARDS HARPOON WITH BARB DOWNWARDS",
  "1LEFTWARDS HARPOON WITH BARB DOWNWARDS,1LEFT ARROW BELOW,1RIGHT ARROW BELOW,1ASTERISK ABOVE",
  "=2100,ACCOUNT OF,ADDRESSED TO THE SUBJECT,DOUBLE-STRUCK CAPITAL C,DEGREE CELSIUS",
  "CENTRE LINE SYMBOL,CARE OF,CADA UNA,EULER CONSTANT,SCRUPLE,DEGREE FAHRENHEIT,SCRIPT SMALL G",
  "1CAPITAL H,BLACK-LETTER CAPITAL H,DOUBLE-STRUCK CAPITAL H,PLANCK CONSTANT,2OVER TWO PI",
  "SCRIPT CAPITAL I,BLACK-LETTER CAPITAL I,SCRIPT CAPITAL L,1SMALL L,L B BAR SYMBOL",
  "DOUBLE-STRUCK CAPITAL N,NUMERO SIGN,SOUND RECORDING COPYRIGHT,SCRIPT CAPITAL P",
  "DOUBLE-STRUCK CAPITAL P,2Q,SCRIPT CAPITAL R,BLACK-LETTER CAPITAL R,DOUBLE-STRUCK CAPITAL R",
  "PRESCRIPTION TAKE,RESPONSE,SERVICE MARK,TELEPHONE SIGN,TRADE MARK SIGN,VERSICLE",
  "DOUBLE-STRUCK CAPITAL Z,OUNCE SIGN,OHM SIGN,INVERTED OHM SIGN,BLACK-LETTER CAPITAL Z",
  "TURNED GREEK SMALL LETTER IOTA,KELVIN SIGN,ANGSTROM SIGN,SCRIPT CAPITAL B",
  "BLACK-LETTER CAPITAL C,ESTIMATED SYMBOL,SCRIPT SMALL E,1CAPITAL E,2F,TURNED CAPITAL F",
  "SCRIPT CAPITAL M,1SMALL O,ALEF SYMBOL,BET SYMBOL,GIMEL SYMBOL,DALET SYMBOL,INFORMATION SOURCE",
  "ROTATED CAPITAL Q,FACSIMILE SIGN,DOUBLE-STRUCK SMALL PI,2GAMMA,1CAPITAL GAMMA,2PI",
  "1N-ARY SUMMATION,TURNED SANS-SERIF CAPITAL G,3L,REVERSED SANS-SERIF CAPITAL L",
  "TURNED SANS-SERIF CAPITAL Y,DOUBLE-STRUCK ITALIC CAPITAL D,2SMALL D,3E,3I,3J,PROPERTY LINE",
  "TURNED AMPERSAND,PER SIGN,AKTIESELSKAB,TURNED SMALL F,SYMBOL FOR SAMARITAN SOURCE",
  "VULGAR FRACTION ONE SEVENTH,3NINTH,3TENTH,3THIRD,2TWO THIRDS,2ONE FIFTH,2TWO FIFTHS",
  "2THREE FIFTHS,2FOUR FIFTHS,2ONE SIXTH,2FIVE SIXTHS,2ONE EIGHTH,2THREE EIGHTHS,2FIVE EIGHTHS",
  "2SEVEN EIGHTHS,FRACTION NUMERATOR ONE,ROMAN NUMERAL ONE,2TWO,2THREE,2FOUR,2FIVE,2SIX,2SEVEN",
  "2EIGHT,2NINE,2TEN,2ELEVEN,2TWELVE,2FIFTY,2ONE HUNDRED,2FIVE HUNDRED,2ONE THOUSAND",
  "SMALL ROMAN NUMERAL ONE,3TWO,3THREE,3FOUR,3FIVE,3SIX,3SEVEN,3EIGHT,3NINE,3TEN,3ELEVEN,3TWELVE",
  "3FIFTY,3ONE HUNDRED,3FIVE HUNDRED,3ONE THOUSAND,ROMAN NUMERAL ONE THOUSAND C D,2FIVE THOUSAND",
  "2TEN THOUSAND,2REVERSED ONE HUNDRED,LATIN SMALL LETTER REVERSED C,ROMAN NUMERAL SIX LATE FORM",
  "2FIFTY EARLY FORM,3THOUSAND,2ONE HUNDRED THOUSAND,VULGAR FRACTION ZERO THIRDS,TURNED DIGIT TWO",
  "2THREE,=2190,LEFTWARDS ARROW,UPWARDS ARROW,RIGHTWARDS ARROW,DOWNWARDS ARROW,LEFT RIGHT ARROW",
  "UP DOWN ARROW,NORTH WEST ARROW,1EAST ARROW,SOUTH EAST ARROW,1WEST ARROW",
  "LEFTWARDS ARROW WITH STROKE,RIGHTWARDS ARROW WITH STROKE,LEFTWARDS WAVE ARROW",
  "RIGHTWARDS WAVE ARROW,LEFTWARDS TWO HEADED ARROW,UPWARDS TWO HEADED ARROW",
  "RIGHTWARDS TWO HEADED ARROW,DOWNWARDS TWO HEADED ARROW,LEFTWARDS ARROW WITH TAIL",
  "RIGHTWARDS ARROW WITH TAIL,LEFTWARDS ARROW FROM BAR,UPWARDS ARROW FROM BAR",
  "RIGHTWARDS ARROW FROM BAR,DOWNWARDS ARROW FROM BAR,UP DOWN ARROW WITH BASE",
  "LEFTWARDS ARROW WITH HOOK,RIGHTWARDS ARROW WITH HOOK,LEFTWARDS ARROW WITH LOOP",
  "RIGHTWARDS ARROW WITH LOOP,LEFT RIGHT WAVE ARROW,2ARROW WITH STROKE,DOWNWARDS ZIGZAG ARROW",
  "UPWARDS ARROW WITH TIP LEFTWARDS,4RIGHTWARDS,DOWNWARDS ARROW WITH TIP LEFTWARDS,4RIGHTWARDS",
  "RIGHTWARDS ARROW WITH CORNER DOWNWARDS,DOWNWARDS ARROW WITH CORNER LEFTWARDS",
  "ANTICLOCKWISE TOP SEMICIRCLE ARROW,CLOCKWISE TOP SEMICIRCLE ARROW,NORTH WEST ARROW TO LONG BAR",
  "LEFTWARDS ARROW TO BAR OVER RIGHTWARDS ARROW TO BAR,ANTICLOCKWISE OPEN CIRCLE ARROW",
  "CLOCKWISE OPEN CIRCLE ARROW,LEFTWARDS HARPOON WITH BARB UPWARDS,4DOWNWARDS",
  "UPWARDS HARPOON WITH BARB RIGHTWARDS,4LEFTWARDS,RIGHTWARDS HARPOON WITH BARB UPWARDS",
  "4DOWNWARDS,DOWNWARDS HARPOON WITH BARB RIGHTWARDS,4LEFTWARDS",
  "RIGHTWARDS ARROW OVER LEFTWARDS ARROW,UPWARDS ARROW LEFTWARDS OF DOWNWARDS ARROW",
  "LEFTWARDS ARROW OVER RIGHTWARDS ARROW,1PAIRED ARROWS,UPWARDS PAIRED ARROWS",
  "RIGHTWARDS PAIRED ARROWS,DOWNWARDS PAIRED ARROWS,LEFTWARDS HARPOON OVER RIGHTWARDS HARPOON",
  "RIGHTWARDS HARPOON OVER LEFTWARDS HARPOON,LEFTWARDS DOUBLE ARROW WITH STROKE",
  "LEFT RIGHT DOUBLE ARROW WITH STROKE,RIGHTWARDS DOUBLE ARROW WITH STROKE,LEFTWARDS DOUBLE ARROW",
  "UPWARDS DOUBLE ARROW,RIGHTWARDS DOUBLE ARROW,DOWNWARDS DOUBLE ARROW,LEFT RIGHT DOUBLE ARROW",
  "UP DOWN DOUBLE ARROW,NORTH WEST DOUBLE ARROW,1EAST DOUBLE ARROW,SOUTH EAST DOUBLE ARROW",
  "1WEST DOUBLE ARROW,LEFTWARDS TRIPLE ARROW,RIGHTWARDS TRIPLE ARROW,LEFTWARDS SQUIGGLE ARROW",
  "RIGHTWARDS SQUIGGLE ARROW,UPWARDS ARROW WITH DOUBLE STROKE,DOWNWARDS ARROW WITH DOUBLE STROKE",
  "LEFTWARDS DASHED ARROW,UPWARDS DASHED ARROW,RIGHTWARDS DASHED ARROW,DOWNWARDS DASHED ARROW",
  "LEFTWARDS ARROW TO BAR,RIGHTWARDS ARROW TO BAR,LEFTWARDS WHITE ARROW,UPWARDS WHITE ARROW",
  "RIGHTWARDS WHITE ARROW,DOWNWARDS WHITE ARROW,UPWARDS WHITE ARROW FROM BAR,3ON PEDESTAL",
  "5WITH HORIZONTAL BAR,6VERTICAL BAR,2DOUBLE ARROW,4ON PEDESTAL,RIGHTWARDS WHITE ARROW FROM WALL",
  "NORTH WEST ARROW TO CORNER,SOUTH EAST ARROW TO CORNER,UP DOWN WHITE ARROW",
  "RIGHT ARROW WITH SMALL CIRCLE,DOWNWARDS ARROW LEFTWARDS OF UPWARDS ARROW",
  "THREE RIGHTWARDS ARROWS,LEFTWARDS ARROW WITH VERTICAL STROKE",
  "RIGHTWARDS ARROW WITH VERTICAL STROKE,LEFT RIGHT ARROW WITH VERTICAL STROKE",
  "LEFTWARDS ARROW WITH DOUBLE VERTICAL STROKE,RIGHTWARDS ARROW WITH DOUBLE VERTICAL STROKE",
  "LEFT RIGHT ARROW WITH DOUBLE VERTICAL STROKE,LEFTWARDS OPEN-HEADED ARROW",
  "RIGHTWARDS OPEN-HEADED ARROW,LEFT RIGHT OPEN-HEADED ARROW,FOR ALL,COMPLEMENT",
  "PARTIAL DIFFERENTIAL,THERE EXISTS,1DOES NOT EXIST,EMPTY SET,INCREMENT,NABLA,ELEMENT OF",
  "NOT AN ELEMENT OF,SMALL ELEMENT OF,CONTAINS AS MEMBER,DOES NOT CONTAIN AS MEMBER",
  "SMALL CONTAINS AS MEMBER,END OF PROOF,N-ARY PRODUCT,1COPRODUCT,1SUMMATION,MINUS SIGN",
  "MINUS-OR-PLUS SIGN,DOT PLUS,DIVISION SLASH,SET MINUS,ASTERISK OPERATOR,RING OPERATOR",
  "BULLET OPERATOR,SQUARE ROOT,CUBE ROOT,FOURTH ROOT,PROPORTIONAL TO,INFINITY,RIGHT ANGLE,ANGLE",
  "MEASURED ANGLE,SPHERICAL ANGLE,DIVIDES,DOES NOT DIVIDE,PARALLEL TO,NOT PARALLEL TO,LOGICAL AND",
  "1OR,INTERSECTION,UNION,INTEGRAL,DOUBLE INTEGRAL,TRIPLE INTEGRAL,CONTOUR INTEGRAL",
  "SURFACE INTEGRAL,VOLUME INTEGRAL,CLOCKWISE INTEGRAL,1CONTOUR INTEGRAL",
  "ANTICLOCKWISE CONTOUR INTEGRAL,THEREFORE,BECAUSE,RATIO,PROPORTION,DOT MINUS,EXCESS",
  "GEOMETRIC PROPORTION,HOMOTHETIC,TILDE OPERATOR,REVERSED TILDE,INVERTED LAZY S,SINE WAVE",
  "WREATH PRODUCT,NOT TILDE,MINUS TILDE,ASYMPTOTICALLY EQUAL TO,NOT ASYMPTOTICALLY EQUAL TO",
  "APPROXIMATELY EQUAL TO,1BUT NOT ACTUALLY EQUAL TO,NEITHER APPROXIMATELY NOR ACTUALLY EQUAL TO",
  "ALMOST EQUAL TO,NOT ALMOST EQUAL TO,ALMOST EQUAL OR EQUAL TO,TRIPLE TILDE,ALL EQUAL TO",
  "EQUIVALENT TO,GEOMETRICALLY EQUIVALENT TO,DIFFERENCE BETWEEN,APPROACHES THE LIMIT",
  "GEOMETRICALLY EQUAL TO,APPROXIMATELY EQUAL TO OR THE IMAGE OF",
  "IMAGE OF OR APPROXIMATELY EQUAL TO,COLON EQUALS,EQUALS COLON,RING IN EQUAL TO,1EQUAL TO",
  "CORRESPONDS TO,ESTIMATES,EQUIANGULAR TO,STAR EQUALS,DELTA EQUAL TO,EQUAL TO BY DEFINITION",
  "MEASURED BY,QUESTIONED EQUAL TO,NOT EQUAL TO,IDENTICAL TO,NOT IDENTICAL TO",
  "STRICTLY EQUIVALENT TO,LESS-THAN OR EQUAL TO,GREATER-THAN OR EQUAL TO,LESS-THAN OVER EQUAL TO",
  "GREATER-THAN OVER EQUAL TO,LESS-THAN BUT NOT EQUAL TO,GREATER-THAN BUT NOT EQUAL TO",
  "MUCH LESS-THAN,1GREATER-THAN,BETWEEN,NOT EQUIVALENT TO,1LESS-THAN,1GREATER-THAN",
  "NEITHER LESS-THAN NOR EQUAL TO,1GREATER-THAN NOR EQUAL TO,LESS-THAN OR EQUIVALENT TO",
  "GREATER-THAN OR EQUIVALENT TO,NEITHER LESS-THAN NOR EQUIVALENT TO",
  "1GREATER-THAN NOR EQUIVALENT TO,LESS-THAN OR GREATER-THAN,GREATER-THAN OR LESS-THAN",
  "NEITHER LESS-THAN NOR GREATER-THAN,1GREATER-THAN NOR LESS-THAN,PRECEDES,SUCCEEDS",
  "PRECEDES OR EQUAL TO,SUCCEEDS OR EQUAL TO,PRECEDES OR EQUIVALENT TO,SUCCEEDS OR EQUIVALENT TO",
  "DOES NOT PRECEDE,2SUCCEED,SUBSET OF,SUPERSET OF,NOT A SUBSET OF,2SUPERSET OF",
  "SUBSET OF OR EQUAL TO,SUPERSET OF OR EQUAL TO,NEITHER A SUBSET OF NOR EQUAL TO",
  "2SUPERSET OF NOR EQUAL TO,SUBSET OF WITH NOT EQUAL TO,SUPERSET OF WITH NOT EQUAL TO,MULTISET",
  "1MULTIPLICATION,1UNION,SQUARE IMAGE OF,1ORIGINAL OF,1IMAGE OF OR EQUAL TO",
  "1ORIGINAL OF OR EQUAL TO,1CAP,1CUP,CIRCLED PLUS,1MINUS,1TIMES,1DIVISION SLASH,1DOT OPERATOR",
  "1RING OPERATOR,1ASTERISK OPERATOR,1EQUALS,1DASH,SQUARED PLUS,1MINUS,1TIMES,1DOT OPERATOR",
  "RIGHT TACK,LEFT TACK,DOWN TACK,UP TACK,ASSERTION,MODELS,TRUE,FORCES",
  "TRIPLE VERTICAL BAR RIGHT TURNSTILE,DOUBLE VERTICAL BAR DOUBLE RIGHT TURNSTILE,DOES NOT PROVE",
  "NOT TRUE,DOES NOT FORCE,NEGATED DOUBLE VERTICAL BAR DOUBLE RIGHT TURNSTILE",
  "PRECEDES UNDER RELATION,SUCCEEDS UNDER RELATION,NORMAL SUBGROUP OF,CONTAINS AS NORMAL SUBGROUP",
  "NORMAL SUBGROUP OF OR EQUAL TO,CONTAINS AS NORMAL SUBGROUP OR EQUAL TO,ORIGINAL OF,IMAGE OF",
  "MULTIMAP,HERMITIAN CONJUGATE MATRIX,INTERCALATE,XOR,NAND,NOR,RIGHT ANGLE WITH ARC,1TRIANGLE",
  "N-ARY LOGICAL AND,2OR,1INTERSECTION,1UNION,DIAMOND OPERATOR,DOT OPERATOR,STAR OPERATOR",
  "DIVISION TIMES,BOWTIE,LEFT NORMAL FACTOR SEMIDIRECT PRODUCT",
  "RIGHT NORMAL FACTOR SEMIDIRECT PRODUCT,LEFT SEMIDIRECT PRODUCT,RIGHT SEMIDIRECT PRODUCT",
  "REVERSED TILDE EQUALS,CURLY LOGICAL OR,2AND,DOUBLE SUBSET,1SUPERSET,1INTERSECTION,1UNION",
  "PITCHFORK,EQUAL AND PARALLEL TO,LESS-THAN WITH DOT,GREATER-THAN WITH DOT,VERY MUCH LESS-THAN",
  "2GREATER-THAN,LESS-THAN EQUAL TO OR GREATER-THAN,GREATER-THAN EQUAL TO OR LESS-THAN",
  "EQUAL TO OR LESS-THAN,3GREATER-THAN,3PRECEDES,3SUCCEEDS,DOES NOT PRECEDE OR EQUAL",
  "2SUCCEED OR EQUAL,NOT SQUARE IMAGE OF OR EQUAL TO,2ORIGINAL OF OR EQUAL TO",
  "SQUARE IMAGE OF OR NOT EQUAL TO,1ORIGINAL OF OR NOT EQUAL TO,LESS-THAN BUT NOT EQUIVALENT TO",
  "GREATER-THAN BUT NOT EQUIVALENT TO,PRECEDES BUT NOT EQUIVALENT TO",
  "SUCCEEDS BUT NOT EQUIVALENT TO,NOT NORMAL SUBGROUP OF,DOES NOT CONTAIN AS NORMAL SUBGROUP",
  "NOT NORMAL SUBGROUP OF OR EQUAL TO,DOES NOT CONTAIN AS NORMAL SUBGROUP OR EQUAL",
  "VERTICAL ELLIPSIS,MIDLINE HORIZONTAL ELLIPSIS,UP RIGHT DIAGONAL ELLIPSIS",
  "DOWN RIGHT DIAGONAL ELLIPSIS,ELEMENT OF WITH LONG HORIZONTAL STROKE",
  "3VERTICAL BAR AT END OF HORIZONTAL STROKE",
  "SMALL ELEMENT OF WITH VERTICAL BAR AT END OF HORIZONTAL STROKE,ELEMENT OF WITH DOT ABOVE",
  "3OVERBAR,SMALL ELEMENT OF WITH OVERBAR,ELEMENT OF WITH UNDERBAR,3TWO HORIZONTAL STROKES",
  "CONTAINS WITH LONG HORIZONTAL STROKE,2VERTICAL BAR AT END OF HORIZONTAL STROKE",
  "SMALL CONTAINS WITH VERTICAL BAR AT END OF HORIZONTAL STROKE,CONTAINS WITH OVERBAR",
  "SMALL CONTAINS WITH OVERBAR,Z NOTATION BAG MEMBERSHIP,DIAMETER SIGN,ELECTRIC ARROW,HOUSE",
  "UP ARROWHEAD,DOWN ARROWHEAD,PROJECTIVE,PERSPECTIVE,WAVY LINE,LEFT CEILING,RIGHT CEILING",
  "LEFT FLOOR,RIGHT FLOOR,BOTTOM RIGHT CROP,1LEFT CROP,TOP RIGHT CROP,1LEFT CROP",
  "REVERSED NOT SIGN,SQUARE LOZENGE,ARC,SEGMENT,SECTOR,TELEPHONE RECORDER,POSITION INDICATOR",
  "VIEWDATA SQUARE,PLACE OF INTEREST SIGN,TURNED NOT SIGN,WATCH,HOURGLASS,TOP LEFT CORNER",
  "1RIGHT CORNER,BOTTOM LEFT CORNER,1RIGHT CORNER,TOP HALF INTEGRAL,BOTTOM HALF INTEGRAL,FROWN",
  "SMILE,UP ARROWHEAD BETWEEN TWO HORIZONTAL BARS,OPTION KEY,ERASE TO THE RIGHT",
  "X IN A RECTANGLE BOX,KEYBOARD,LEFT-POINTING ANGLE BRACKET,RIGHT-POINTING ANGLE BRACKET",
  "ERASE TO THE LEFT,BENZENE RING,CYLINDRICITY,ALL AROUND-PROFILE,SYMMETRY,TOTAL RUNOUT",
  "DIMENSION ORIGIN,CONICAL TAPER,SLOPE,COUNTERBORE,COUNTERSINK,APL FUNCTIONAL SYMBOL I-BEAM",
  "3SQUISH QUAD,3QUAD EQUAL,4DIVIDE,4DIAMOND,4JOT,4CIRCLE,3CIRCLE STILE,4JOT,3SLASH BAR",
  "3BACKSLASH BAR,3QUAD SLASH,4BACKSLASH,4LESS-THAN,4GREATER-THAN,3LEFTWARDS VANE",
  "3RIGHTWARDS VANE,3QUAD LEFTWARDS ARROW,4RIGHTWARDS ARROW,3CIRCLE BACKSLASH,3DOWN TACK UNDERBAR",
  "3DELTA STILE,3QUAD DOWN CARET,4DELTA,3DOWN TACK JOT,3UPWARDS VANE,3QUAD UPWARDS ARROW",
  "3UP TACK OVERBAR,3DEL STILE,3QUAD UP CARET,4DEL,3UP TACK JOT,3DOWNWARDS VANE",
  "3QUAD DOWNWARDS ARROW,3QUOTE UNDERBAR,3DELTA UNDERBAR,3DIAMOND UNDERBAR,3JOT UNDERBAR",
  "3CIRCLE UNDERBAR,3UP SHOE JOT,3QUOTE QUAD,3CIRCLE STAR,3QUAD COLON,3UP TACK DIAERESIS",
  "3DEL DIAERESIS,3STAR DIAERESIS,3JOT DIAERESIS,3CIRCLE DIAERESIS,3DOWN SHOE STILE",
  "3LEFT SHOE STILE,3TILDE DIAERESIS,3GREATER-THAN DIAERESIS,3COMMA BAR,3DEL TILDE,3ZILDE",
  "3STILE TILDE,3SEMICOLON UNDERBAR,3QUAD NOT EQUAL,4QUESTION,3DOWN CARET TILDE,3UP CARET TILDE",
  "3IOTA,3RHO,3OMEGA,3ALPHA UNDERBAR,3EPSILON UNDERBAR,3IOTA UNDERBAR,3OMEGA UNDERBAR,3ALPHA",
  "NOT CHECK MARK,RIGHT ANGLE WITH DOWNWARDS ZIGZAG ARROW,SHOULDERED OPEN BOX,BELL SYMBOL",
  "VERTICAL LINE WITH MIDDLE DOT,INSERTION SYMBOL,CONTINUOUS UNDERLINE SYMBOL",
  "DISCONTINUOUS UNDERLINE SYMBOL,EMPHASIS SYMBOL,COMPOSITION SYMBOL",
  "WHITE SQUARE WITH CENTRE VERTICAL LINE,ENTER SYMBOL,ALTERNATIVE KEY SYMBOL,HELM SYMBOL",
  "CIRCLED HORIZONTAL BAR WITH NOTCH,1TRIANGLE DOWN,BROKEN CIRCLE WITH NORTHWEST ARROW",
  "UNDO SYMBOL,MONOSTABLE SYMBOL,HYSTERESIS SYMBOL,OPEN-CIRCUIT-OUTPUT H-TYPE SYMBOL",
  "1L-TYPE SYMBOL,PASSIVE-PULL-DOWN-OUTPUT SYMBOL,PASSIVE-PULL-UP-OUTPUT SYMBOL",
  "DIRECT CURRENT SYMBOL FORM TWO,SOFTWARE-FUNCTION SYMBOL,APL FUNCTIONAL SYMBOL QUAD",
  "DECIMAL SEPARATOR KEY SYMBOL,PREVIOUS PAGE,NEXT PAGE,PRINT SCREEN SYMBOL,CLEAR SCREEN SYMBOL",
  "LEFT PARENTHESIS UPPER HOOK,2EXTENSION,2LOWER HOOK,RIGHT PARENTHESIS UPPER HOOK,2EXTENSION",
  "2LOWER HOOK,LEFT SQUARE BRACKET UPPER CORNER,3EXTENSION,3LOWER CORNER",
  "RIGHT SQUARE BRACKET UPPER CORNER,3EXTENSION,3LOWER CORNER,LEFT CURLY BRACKET UPPER HOOK",
  "3MIDDLE PIECE,3LOWER HOOK,CURLY BRACKET EXTENSION,RIGHT CURLY BRACKET UPPER HOOK,3MIDDLE PIECE",
  "3LOWER HOOK,INTEGRAL EXTENSION,HORIZONTAL LINE EXTENSION",
  "UPPER LEFT OR LOWER RIGHT CURLY BRACKET SECTION,1RIGHT OR LOWER LEFT CURLY BRACKET SECTION",
  "SUMMATION TOP,1BOTTOM,TOP SQUARE BRACKET,BOTTOM SQUARE BRACKET,3OVER TOP SQUARE BRACKET",
  "RADICAL SYMBOL BOTTOM,LEFT VERTICAL BOX LINE,RIGHT VERTICAL BOX LINE,HORIZONTAL SCAN LINE-1",
  "2LINE-3,2LINE-7,2LINE-9,DENTISTRY SYMBOL LIGHT VERTICAL AND TOP RIGHT,5BOTTOM RIGHT",
  "4WITH CIRCLE,3DOWN AND HORIZONTAL WITH CIRCLE,3UP AND HORIZONTAL WITH CIRCLE",
  "3VERTICAL WITH TRIANGLE,3DOWN AND HORIZONTAL WITH TRIANGLE,3UP AND HORIZONTAL WITH TRIANGLE",
  "3VERTICAL AND WAVE,3DOWN AND HORIZONTAL WITH WAVE,3UP AND HORIZONTAL WITH WAVE",
  "3DOWN AND HORIZONTAL,3UP AND HORIZONTAL,3VERTICAL AND TOP LEFT,5BOTTOM LEFT,SQUARE FOOT",
  "RETURN SYMBOL,EJECT SYMBOL,VERTICAL LINE EXTENSION,METRICAL BREVE,1LONG OVER SHORT",
  "1SHORT OVER LONG,1LONG OVER TWO SHORTS,1TWO SHORTS OVER LONG,3JOINED,1TRISEME,1TETRASEME",
  "1PENTASEME,EARTH GROUND,FUSE,TOP PARENTHESIS,BOTTOM PARENTHESIS,TOP CURLY BRACKET",
  "BOTTOM CURLY BRACKET,TOP TORTOISE SHELL BRACKET,BOTTOM TORTOISE SHELL BRACKET,WHITE TRAPEZIUM",
  "BENZENE RING WITH CIRCLE,STRAIGHTNESS,FLATNESS,AC CURRENT,ELECTRICAL INTERSECTION",
  "DECIMAL EXPONENT SYMBOL,BLACK RIGHT-POINTING DOUBLE TRIANGLE,1LEFT-POINTING DOUBLE TRIANGLE",
  "1UP-POINTING DOUBLE TRIANGLE,1DOWN-POINTING DOUBLE TRIANGLE",
  "1RIGHT-POINTING DOUBLE TRIANGLE WITH VERTICAL BAR",
  "1LEFT-POINTING DOUBLE TRIANGLE WITH VERTICAL BAR",
  "1RIGHT-POINTING TRIANGLE WITH DOUBLE VERTICAL BAR,ALARM CLOCK,STOPWATCH,TIMER CLOCK",
  "HOURGLASS WITH FLOWING SAND,BLACK MEDIUM LEFT-POINTING TRIANGLE,2RIGHT-POINTING TRIANGLE",
  "2UP-POINTING TRIANGLE,2DOWN-POINTING TRIANGLE,DOUBLE VERTICAL BAR,BLACK SQUARE FOR STOP",
  "1CIRCLE FOR RECORD,POWER SYMBOL,1ON-OFF SYMBOL,1ON SYMBOL,1SLEEP SYMBOL,OBSERVER EYE SYMBOL",
  "SYMBOL FOR NULL,2START OF HEADING,4TEXT,2END OF TEXT,4TRANSMISSION,2ENQUIRY,2ACKNOWLEDGE,2BELL",
  "2BACKSPACE,2HORIZONTAL TABULATION,2LINE FEED,2VERTICAL TABULATION,2FORM FEED,2CARRIAGE RETURN",
  "2SHIFT OUT,3IN,2DATA LINK ESCAPE,2DEVICE CONTROL ONE,4TWO,4THREE,4FOUR,2NEGATIVE ACKNOWLEDGE",
  "2SYNCHRONOUS IDLE,2END OF TRANSMISSION BLOCK,2CANCEL,2END OF MEDIUM,2SUBSTITUTE,2ESCAPE",
  "2FILE SEPARATOR,2GROUP SEPARATOR,2RECORD SEPARATOR,2UNIT SEPARATOR,2SPACE,2DELETE,BLANK SYMBOL",
  "OPEN BOX,SYMBOL FOR NEWLINE,2DELETE FORM TWO,2SUBSTITUTE FORM TWO,=2440,OCR HOOK,1CHAIR,1FORK",
  "1INVERTED FORK,1BELT BUCKLE,1BOW TIE,1BRANCH BANK IDENTIFICATION,1AMOUNT OF CHECK,1DASH",
  "1CUSTOMER ACCOUNT NUMBER,1DOUBLE BACKSLASH,=2460,CIRCLED DIGIT ONE,2TWO,2THREE,2FOUR,2FIVE",
  "2SIX,2SEVEN,2EIGHT,2NINE,1NUMBER TEN,2ELEVEN,2TWELVE,2THIRTEEN,2FOURTEEN,2FIFTEEN,2SIXTEEN",
  "2SEVENTEEN,2EIGHTEEN,2NINETEEN,2TWENTY,PARENTHESIZED DIGIT ONE,2TWO,2THREE,2FOUR,2FIVE,2SIX",
  "2SEVEN,2EIGHT,2NINE,1NUMBER TEN,2ELEVEN,2TWELVE,2THIRTEEN,2FOURTEEN,2FIFTEEN,2SIXTEEN",
  "2SEVENTEEN,2EIGHTEEN,2NINETEEN,2TWENTY,DIGIT ONE FULL STOP,1TWO FULL STOP,1THREE FULL STOP",
  "1FOUR FULL STOP,1FIVE FULL STOP,1SIX FULL STOP,1SEVEN FULL STOP,1EIGHT FULL STOP",
  "1NINE FULL STOP,NUMBER TEN FULL STOP,1ELEVEN FULL STOP,1TWELVE FULL STOP,1THIRTEEN FULL STOP",
  "1FOURTEEN FULL STOP,1FIFTEEN FULL STOP,1SIXTEEN FULL STOP,1SEVENTEEN FULL STOP",
  "1EIGHTEEN FULL STOP,1NINETEEN FULL STOP,1TWENTY FULL STOP,PARENTHESIZED LATIN SMALL LETTER A",
  "4B,4C,4D,4E,4F,4G,4H,4I,4J,4K,4L,4M,4N,4O,4P,4Q,4R,4S,4T,4U,4V,4W,4X,4Y,4Z",
  "CIRCLED LATIN CAPITAL LETTER A,4B,4C,4D,4E,4F,4G,4H,4I,4J,4K,4L,4M,4N,4O,4P,4Q,4R,4S,4T,4U,4V",
  "4W,4X,4Y,4Z,2SMALL LETTER A,4B,4C,4D,4E,4F,4G,4H,4I,4J,4K,4L,4M,4N,4O,4P,4Q,4R,4S,4T,4U,4V,4W",
  "4X,4Y,4Z,1DIGIT ZERO,NEGATIVE CIRCLED NUMBER ELEVEN,3TWELVE,3THIRTEEN,3FOURTEEN,3FIFTEEN",
  "3SIXTEEN,3SEVENTEEN,3EIGHTEEN,3NINETEEN,3TWENTY,DOUBLE CIRCLED DIGIT ONE,3TWO,3THREE,3FOUR",
  "3FIVE,3SIX,3SEVEN,3EIGHT,3NINE,2NUMBER TEN,NEGATIVE CIRCLED DIGIT ZERO",
  "BOX DRAWINGS LIGHT HORIZONTAL,2HEAVY HORIZONTAL,2LIGHT VERTICAL,2HEAVY VERTICAL",
  "2LIGHT TRIPLE DASH HORIZONTAL,2HEAVY TRIPLE DASH HORIZONTAL,2LIGHT TRIPLE DASH VERTICAL",
  "2HEAVY TRIPLE DASH VERTICAL,2LIGHT QUADRUPLE DASH HORIZONTAL,2HEAVY QUADRUPLE DASH HORIZONTAL",
  "2LIGHT QUADRUPLE DASH VERTICAL,2HEAVY QUADRUPLE DASH VERTICAL,2LIGHT DOWN AND RIGHT",
  "2DOWN LIGHT AND RIGHT HEAVY,3HEAVY AND RIGHT LIGHT,2HEAVY DOWN AND RIGHT,2LIGHT DOWN AND LEFT",
  "2DOWN LIGHT AND LEFT HEAVY,3HEAVY AND LEFT LIGHT,2HEAVY DOWN AND LEFT,2LIGHT UP AND RIGHT",
  "2UP LIGHT AND RIGHT HEAVY,3HEAVY AND RIGHT LIGHT,2HEAVY UP AND RIGHT,2LIGHT UP AND LEFT",
  "2UP LIGHT AND LEFT HEAVY,3HEAVY AND LEFT LIGHT,2HEAVY UP AND LEFT,2LIGHT VERTICAL AND RIGHT",
  "2VERTICAL LIGHT AND RIGHT HEAVY,2UP HEAVY AND RIGHT DOWN LIGHT,2DOWN HEAVY AND RIGHT UP LIGHT",
  "2VERTICAL HEAVY AND RIGHT LIGHT,2DOWN LIGHT AND RIGHT UP HEAVY,2UP LIGHT AND RIGHT DOWN HEAVY",
  "2HEAVY VERTICAL AND RIGHT,2LIGHT VERTICAL AND LEFT,2VERTICAL LIGHT AND LEFT HEAVY",
  "2UP HEAVY AND LEFT DOWN LIGHT,2DOWN HEAVY AND LEFT UP LIGHT,2VERTICAL HEAVY AND LEFT LIGHT",
  "2DOWN LIGHT AND LEFT UP HEAVY,2UP LIGHT AND LEFT DOWN HEAVY,2HEAVY VERTICAL AND LEFT",
  "2LIGHT DOWN AND HORIZONTAL,2LEFT HEAVY AND RIGHT DOWN LIGHT,2RIGHT HEAVY AND LEFT DOWN LIGHT",
  "2DOWN LIGHT AND HORIZONTAL HEAVY,3HEAVY AND HORIZONTAL LIGHT,2RIGHT LIGHT AND LEFT DOWN HEAVY",
  "2LEFT LIGHT AND RIGHT DOWN HEAVY,2HEAVY DOWN AND HORIZONTAL,2LIGHT UP AND HORIZONTAL",
  "2LEFT HEAVY AND RIGHT UP LIGHT,2RIGHT HEAVY AND LEFT UP LIGHT,2UP LIGHT AND HORIZONTAL HEAVY",
  "3HEAVY AND HORIZONTAL LIGHT,2RIGHT LIGHT AND LEFT UP HEAVY,2LEFT LIGHT AND RIGHT UP HEAVY",
  "2HEAVY UP AND HORIZONTAL,2LIGHT VERTICAL AND HORIZONTAL,2LEFT HEAVY AND RIGHT VERTICAL LIGHT",
  "2RIGHT HEAVY AND LEFT VERTICAL LIGHT,2VERTICAL LIGHT AND HORIZONTAL HEAVY",
  "2UP HEAVY AND DOWN HORIZONTAL LIGHT,2DOWN HEAVY AND UP HORIZONTAL LIGHT",
  "2VERTICAL HEAVY AND HORIZONTAL LIGHT,2LEFT UP HEAVY AND RIGHT DOWN LIGHT",
  "2RIGHT UP HEAVY AND LEFT DOWN LIGHT,2LEFT DOWN HEAVY AND RIGHT UP LIGHT",
  "2RIGHT DOWN HEAVY AND LEFT UP LIGHT,2DOWN LIGHT AND UP HORIZONTAL HEAVY",
  "2UP LIGHT AND DOWN HORIZONTAL HEAVY,2RIGHT LIGHT AND LEFT VERTICAL HEAVY",
  "2LEFT LIGHT AND RIGHT VERTICAL HEAVY,2HEAVY VERTICAL AND HORIZONTAL",
  "2LIGHT DOUBLE DASH HORIZONTAL,2HEAVY DOUBLE DASH HORIZONTAL,2LIGHT DOUBLE DASH VERTICAL",
  "2HEAVY DOUBLE DASH VERTICAL,2DOUBLE HORIZONTAL,3VERTICAL,2DOWN SINGLE AND RIGHT DOUBLE",
  "3DOUBLE AND RIGHT SINGLE,2DOUBLE DOWN AND RIGHT,2DOWN SINGLE AND LEFT DOUBLE",
  "3DOUBLE AND LEFT SINGLE,2DOUBLE DOWN AND LEFT,2UP SINGLE AND RIGHT DOUBLE",
  "3DOUBLE AND RIGHT SINGLE,2DOUBLE UP AND RIGHT,2UP SINGLE AND LEFT DOUBLE",
  "3DOUBLE AND LEFT SINGLE,2DOUBLE UP AND LEFT,2VERTICAL SINGLE AND RIGHT DOUBLE",
  "3DOUBLE AND RIGHT SINGLE,2DOUBLE VERTICAL AND RIGHT,2VERTICAL SINGLE AND LEFT DOUBLE",
  "3DOUBLE AND LEFT SINGLE,2DOUBLE VERTICAL AND LEFT,2DOWN SINGLE AND HORIZONTAL DOUBLE",
  "3DOUBLE AND HORIZONTAL SINGLE,2DOUBLE DOWN AND HORIZONTAL,2UP SINGLE AND HORIZONTAL DOUBLE",
  "3DOUBLE AND HORIZONTAL SINGLE,2DOUBLE UP AND HORIZONTAL,2VERTICAL SINGLE AND HORIZONTAL DOUBLE",
  "3DOUBLE AND HORIZONTAL SINGLE,2DOUBLE VERTICAL AND HORIZONTAL,2LIGHT ARC DOWN AND RIGHT,6LEFT",
  "4UP AND LEFT,6RIGHT,3DIAGONAL UPPER RIGHT TO LOWER LEFT,5LEFT TO LOWER RIGHT,4CROSS,3LEFT,3UP",
  "3RIGHT,3DOWN,2HEAVY LEFT,3UP,3RIGHT,3DOWN,2LIGHT LEFT AND HEAVY RIGHT,3UP AND HEAVY DOWN",
  "2HEAVY LEFT AND LIGHT RIGHT,3UP AND LIGHT DOWN,UPPER HALF BLOCK,LOWER ONE EIGHTH BLOCK",
  "2QUARTER BLOCK,1THREE EIGHTHS BLOCK,1HALF BLOCK,1FIVE EIGHTHS BLOCK,1THREE QUARTERS BLOCK",
  "1SEVEN EIGHTHS BLOCK,FULL BLOCK,LEFT SEVEN EIGHTHS BLOCK,1THREE QUARTERS BLOCK",
  "1FIVE EIGHTHS BLOCK,1HALF BLOCK,1THREE EIGHTHS BLOCK,1ONE QUARTER BLOCK,2EIGHTH BLOCK",
  "RIGHT HALF BLOCK,LIGHT SHADE,MEDIUM SHADE,DARK SHADE,UPPER ONE EIGHTH BLOCK",
  "RIGHT ONE EIGHTH BLOCK,QUADRANT LOWER LEFT,2RIGHT,1UPPER LEFT,3AND LOWER LEFT AND LOWER RIGHT",
  "5RIGHT,4UPPER RIGHT AND LOWER LEFT,8RIGHT,2RIGHT,3AND LOWER LEFT,6AND LOWER RIGHT,BLACK SQUARE",
  "WHITE SQUARE,2WITH ROUNDED CORNERS,2CONTAINING BLACK SMALL SQUARE,SQUARE WITH HORIZONTAL FILL",
  "2VERTICAL FILL,2ORTHOGONAL CROSSHATCH FILL,2UPPER LEFT TO LOWER RIGHT FILL",
  "3RIGHT TO LOWER LEFT FILL,2DIAGONAL CROSSHATCH FILL,BLACK SMALL SQUARE,WHITE SMALL SQUARE",
  "BLACK RECTANGLE,WHITE RECTANGLE,BLACK VERTICAL RECTANGLE,WHITE VERTICAL RECTANGLE",
  "BLACK PARALLELOGRAM,WHITE PARALLELOGRAM,BLACK UP-POINTING TRIANGLE,WHITE UP-POINTING TRIANGLE",
  "BLACK UP-POINTING SMALL TRIANGLE,WHITE UP-POINTING SMALL TRIANGLE",
  "BLACK RIGHT-POINTING TRIANGLE,WHITE RIGHT-POINTING TRIANGLE",
  "BLACK RIGHT-POINTING SMALL TRIANGLE,WHITE RIGHT-POINTING SMALL TRIANGLE",
  "BLACK RIGHT-POINTING POINTER,WHITE RIGHT-POINTING POINTER,BLACK DOWN-POINTING TRIANGLE",
  "WHITE DOWN-POINTING TRIANGLE,BLACK DOWN-POINTING SMALL TRIANGLE",
  "WHITE DOWN-POINTING SMALL TRIANGLE,BLACK LEFT-POINTING TRIANGLE,WHITE LEFT-POINTING TRIANGLE",
  "BLACK LEFT-POINTING SMALL TRIANGLE,WHITE LEFT-POINTING SMALL TRIANGLE",
  "BLACK LEFT-POINTING POINTER,WHITE LEFT-POINTING POINTER,BLACK DIAMOND,WHITE DIAMOND",
  "2CONTAINING BLACK SMALL DIAMOND,FISHEYE,LOZENGE,WHITE CIRCLE,DOTTED CIRCLE",
  "CIRCLE WITH VERTICAL FILL,BULLSEYE,BLACK CIRCLE,CIRCLE WITH LEFT HALF BLACK,2RIGHT HALF BLACK",
  "2LOWER HALF BLACK,2UPPER HALF BLACK,3RIGHT QUADRANT BLACK,2ALL BUT UPPER LEFT QUADRANT BLACK",
  "LEFT HALF BLACK CIRCLE,RIGHT HALF BLACK CIRCLE,INVERSE BULLET,1WHITE CIRCLE",
  "UPPER HALF INVERSE WHITE CIRCLE,LOWER HALF INVERSE WHITE CIRCLE",
  "UPPER LEFT QUADRANT CIRCULAR ARC,1RIGHT QUADRANT CIRCULAR ARC",
  "LOWER RIGHT QUADRANT CIRCULAR ARC,1LEFT QUADRANT CIRCULAR ARC,UPPER HALF CIRCLE",
  "LOWER HALF CIRCLE,BLACK LOWER RIGHT TRIANGLE,2LEFT TRIANGLE,1UPPER LEFT TRIANGLE",
  "2RIGHT TRIANGLE,WHITE BULLET,SQUARE WITH LEFT HALF BLACK,2RIGHT HALF BLACK",
  "2UPPER LEFT DIAGONAL HALF BLACK,2LOWER RIGHT DIAGONAL HALF BLACK",
  "WHITE SQUARE WITH VERTICAL BISECTING LINE,1UP-POINTING TRIANGLE WITH DOT",
  "UP-POINTING TRIANGLE WITH LEFT HALF BLACK,3RIGHT HALF BLACK,LARGE CIRCLE",
  "WHITE SQUARE WITH UPPER LEFT QUADRANT,3LOWER LEFT QUADRANT,4RIGHT QUADRANT",
  "3UPPER RIGHT QUADRANT,1CIRCLE WITH UPPER LEFT QUADRANT,3LOWER LEFT QUADRANT,4RIGHT QUADRANT",
  "3UPPER RIGHT QUADRANT,UPPER LEFT TRIANGLE,1RIGHT TRIANGLE,LOWER LEFT TRIANGLE",
  "WHITE MEDIUM SQUARE,BLACK MEDIUM SQUARE,WHITE MEDIUM SMALL SQUARE,BLACK MEDIUM SMALL SQUARE",
  "LOWER RIGHT TRIANGLE,BLACK SUN WITH RAYS,CLOUD,UMBRELLA,SNOWMAN,COMET,BLACK STAR,WHITE STAR",
  "LIGHTNING,THUNDERSTORM,SUN,ASCENDING NODE,DESCENDING NODE,CONJUNCTION,OPPOSITION",
  "BLACK TELEPHONE,WHITE TELEPHONE,BALLOT BOX,2WITH CHECK,3X,SALTIRE,UMBRELLA WITH RAIN DROPS",
  "HOT BEVERAGE,WHITE SHOGI PIECE,BLACK SHOGI PIECE,SHAMROCK,REVERSED ROTATED FLORAL HEART BULLET",
  "BLACK LEFT POINTING INDEX,1RIGHT POINTING INDEX,WHITE LEFT POINTING INDEX,1UP POINTING INDEX",
  "1RIGHT POINTING INDEX,1DOWN POINTING INDEX,SKULL AND CROSSBONES,CAUTION SIGN,RADIOACTIVE SIGN",
  "BIOHAZARD SIGN,CADUCEUS,ANKH,ORTHODOX CROSS,CHI RHO,CROSS OF LORRAINE,2JERUSALEM",
  "STAR AND CRESCENT,FARSI SYMBOL,ADI SHAKTI,HAMMER AND SICKLE,PEACE SYMBOL,YIN YANG",
  "TRIGRAM FOR HEAVEN,2LAKE,2FIRE,2THUNDER,2WIND,2WATER,2MOUNTAIN,2EARTH,WHEEL OF DHARMA",
  "WHITE FROWNING FACE,1SMILING FACE,BLACK SMILING FACE,WHITE SUN WITH RAYS,FIRST QUARTER MOON",
  "LAST QUARTER MOON,MERCURY,FEMALE SIGN,EARTH,MALE SIGN,JUPITER,SATURN,URANUS,NEPTUNE,PLUTO",
  "ARIES,TAURUS,GEMINI,CANCER,LEO,VIRGO,LIBRA,SCORPIUS,SAGITTARIUS,CAPRICORN,AQUARIUS,PISCES",
  "WHITE CHESS KING,2QUEEN,2ROOK,2BISHOP,2KNIGHT,2PAWN,BLACK CHESS KING,2QUEEN,2ROOK,2BISHOP",
  "2KNIGHT,2PAWN,1SPADE SUIT,WHITE HEART SUIT,1DIAMOND SUIT,BLACK CLUB SUIT,WHITE SPADE SUIT",
  "BLACK HEART SUIT,1DIAMOND SUIT,WHITE CLUB SUIT,HOT SPRINGS,QUARTER NOTE,EIGHTH NOTE",
  "BEAMED EIGHTH NOTES,1SIXTEENTH NOTES,MUSIC FLAT SIGN,1NATURAL SIGN,1SHARP SIGN",
  "WEST SYRIAC CROSS,EAST SYRIAC CROSS,UNIVERSAL RECYCLING SYMBOL",
  "RECYCLING SYMBOL FOR TYPE-1 PLASTICS,3TYPE-2 PLASTICS,3TYPE-3 PLASTICS,3TYPE-4 PLASTICS",
  "3TYPE-5 PLASTICS,3TYPE-6 PLASTICS,3TYPE-7 PLASTICS,3GENERIC MATERIALS",
  "BLACK UNIVERSAL RECYCLING SYMBOL,RECYCLED PAPER SYMBOL,PARTIALLY-RECYCLED PAPER SYMBOL",
  "PERMANENT PAPER SIGN,WHEELCHAIR SYMBOL,DIE FACE-1,1FACE-2,1FACE-3,1FACE-4,1FACE-5,1FACE-6",
  "WHITE CIRCLE WITH DOT RIGHT,3TWO DOTS,BLACK CIRCLE WITH WHITE DOT RIGHT,3TWO WHITE DOTS",
  "MONOGRAM FOR YANG,2YIN,DIGRAM FOR GREATER YANG,2LESSER YIN,3YANG,2GREATER YIN,WHITE FLAG",
  "BLACK FLAG,HAMMER AND PICK,ANCHOR,CROSSED SWORDS,STAFF OF AESCULAPIUS,SCALES,ALEMBIC,FLOWER",
  "GEAR,STAFF OF HERMES,ATOM SYMBOL,FLEUR-DE-LIS,OUTLINED WHITE STAR,THREE LINES CONVERGING RIGHT",
  "3LEFT,WARNING SIGN,HIGH VOLTAGE SIGN,DOUBLED FEMALE SIGN,1MALE SIGN",
  "INTERLOCKED FEMALE AND MALE SIGN,MALE AND FEMALE SIGN,1WITH STROKE SIGN",
  "3AND MALE AND FEMALE SIGN,VERTICAL MALE WITH STROKE SIGN,HORIZONTAL MALE WITH STROKE SIGN",
  "MEDIUM WHITE CIRCLE,1BLACK CIRCLE,1SMALL WHITE CIRCLE,MARRIAGE SYMBOL,DIVORCE SYMBOL",
  "UNMARRIED PARTNERSHIP SYMBOL,COFFIN,FUNERAL URN,NEUTER,CERES,PALLAS,JUNO,VESTA,CHIRON",
  "BLACK MOON LILITH,SEXTILE,SEMISEXTILE,QUINCUNX,SESQUIQUADRATE,SOCCER BALL,BASEBALL,SQUARED KEY",
  "WHITE DRAUGHTS MAN,2KING,BLACK DRAUGHTS MAN,2KING,SNOWMAN WITHOUT SNOW,SUN BEHIND CLOUD,RAIN",
  "BLACK SNOWMAN,THUNDER CLOUD AND RAIN,TURNED WHITE SHOGI PIECE,1BLACK SHOGI PIECE",
  "WHITE DIAMOND IN SQUARE,CROSSING LANES,DISABLED CAR,OPHIUCHUS,PICK,CAR SLIDING",
  "HELMET WITH WHITE CROSS,CIRCLED CROSSING LANES,CHAINS,NO ENTRY",
  "ALTERNATE ONE-WAY LEFT WAY TRAFFIC,BLACK TWO-WAY LEFT WAY TRAFFIC",
  "WHITE TWO-WAY LEFT WAY TRAFFIC,BLACK LEFT LANE MERGE,WHITE LEFT LANE MERGE,DRIVE SLOW SIGN",
  "HEAVY WHITE DOWN-POINTING TRIANGLE,LEFT CLOSED ENTRY,SQUARED SALTIRE",
  "FALLING DIAGONAL IN WHITE CIRCLE IN BLACK SQUARE,BLACK TRUCK,RESTRICTED LEFT ENTRY-1,2ENTRY-2",
  "ASTRONOMICAL SYMBOL FOR URANUS,HEAVY CIRCLE WITH STROKE AND TWO DOTS ABOVE,PENTAGRAM",
  "RIGHT-HANDED INTERLACED PENTAGRAM,LEFT-HANDED INTERLACED PENTAGRAM,INVERTED PENTAGRAM",
  "BLACK CROSS ON SHIELD,SHINTO SHRINE,CHURCH,CASTLE,HISTORIC SITE,GEAR WITHOUT HUB,1WITH HANDLES",
  "MAP SYMBOL FOR LIGHTHOUSE,MOUNTAIN,UMBRELLA ON GROUND,FOUNTAIN,FLAG IN HOLE,FERRY,SAILBOAT",
  "SQUARE FOUR CORNERS,SKIER,ICE SKATE,PERSON WITH BALL,TENT,JAPANESE BANK SYMBOL",
  "HEADSTONE GRAVEYARD SYMBOL,FUEL PUMP,CUP ON BLACK SQUARE",
  "WHITE FLAG WITH HORIZONTAL MIDDLE BLACK STRIPE,BLACK SAFETY SCISSORS,UPPER BLADE SCISSORS",
  "BLACK SCISSORS,LOWER BLADE SCISSORS,WHITE SCISSORS,1HEAVY CHECK MARK,TELEPHONE LOCATION SIGN",
  "TAPE DRIVE,AIRPLANE,ENVELOPE,RAISED FIST,1HAND,VICTORY HAND,WRITING HAND,LOWER RIGHT PENCIL",
  "PENCIL,UPPER RIGHT PENCIL,WHITE NIB,BLACK NIB,CHECK MARK,HEAVY CHECK MARK,MULTIPLICATION X",
  "HEAVY MULTIPLICATION X,BALLOT X,HEAVY BALLOT X,OUTLINED GREEK CROSS,HEAVY GREEK CROSS",
  "OPEN CENTRE CROSS,HEAVY OPEN CENTRE CROSS,LATIN CROSS,SHADOWED WHITE LATIN CROSS",
  "OUTLINED LATIN CROSS,MALTESE CROSS,STAR OF DAVID,FOUR TEARDROP-SPOKED ASTERISK",
  "1BALLOON-SPOKED ASTERISK,HEAVY FOUR BALLOON-SPOKED ASTERISK,FOUR CLUB-SPOKED ASTERISK",
  "BLACK FOUR POINTED STAR,WHITE FOUR POINTED STAR,SPARKLES,STRESS OUTLINED WHITE STAR",
  "CIRCLED WHITE STAR,OPEN CENTRE BLACK STAR,BLACK CENTRE WHITE STAR,OUTLINED BLACK STAR",
  "HEAVY OUTLINED BLACK STAR,PINWHEEL STAR,SHADOWED WHITE STAR,HEAVY ASTERISK",
  "OPEN CENTRE ASTERISK,EIGHT SPOKED ASTERISK,1POINTED BLACK STAR,2PINWHEEL STAR",
  "SIX POINTED BLACK STAR,EIGHT POINTED RECTILINEAR BLACK STAR",
  "HEAVY EIGHT POINTED RECTILINEAR BLACK STAR,TWELVE POINTED BLACK STAR,SIXTEEN POINTED ASTERISK",
  "TEARDROP-SPOKED ASTERISK,OPEN CENTRE TEARDROP-SPOKED ASTERISK,HEAVY TEARDROP-SPOKED ASTERISK",
  "SIX PETALLED BLACK AND WHITE FLORETTE,BLACK FLORETTE,WHITE FLORETTE",
  "EIGHT PETALLED OUTLINED BLACK FLORETTE,CIRCLED OPEN CENTRE EIGHT POINTED STAR",
  "HEAVY TEARDROP-SPOKED PINWHEEL ASTERISK,SNOWFLAKE,TIGHT TRIFOLIATE SNOWFLAKE",
  "HEAVY CHEVRON SNOWFLAKE,SPARKLE,HEAVY SPARKLE,BALLOON-SPOKED ASTERISK",
  "EIGHT TEARDROP-SPOKED PROPELLER ASTERISK,HEAVY EIGHT TEARDROP-SPOKED PROPELLER ASTERISK",
  "CROSS MARK,SHADOWED WHITE CIRCLE,NEGATIVE SQUARED CROSS MARK",
  "LOWER RIGHT DROP-SHADOWED WHITE SQUARE,UPPER RIGHT DROP-SHADOWED WHITE SQUARE",
  "LOWER RIGHT SHADOWED WHITE SQUARE,UPPER RIGHT SHADOWED WHITE SQUARE",
  "BLACK QUESTION MARK ORNAMENT,WHITE QUESTION MARK ORNAMENT,1EXCLAMATION MARK ORNAMENT",
  "BLACK DIAMOND MINUS WHITE X,HEAVY EXCLAMATION MARK SYMBOL,LIGHT VERTICAL BAR",
  "MEDIUM VERTICAL BAR,HEAVY VERTICAL BAR,1SINGLE TURNED COMMA QUOTATION MARK ORNAMENT",
  "2COMMA QUOTATION MARK ORNAMENT,1DOUBLE TURNED COMMA QUOTATION MARK ORNAMENT",
  "2COMMA QUOTATION MARK ORNAMENT,1LOW SINGLE COMMA QUOTATION MARK ORNAMENT",
  "2DOUBLE COMMA QUOTATION MARK ORNAMENT,CURVED STEM PARAGRAPH SIGN ORNAMENT",
  "HEAVY EXCLAMATION MARK ORNAMENT,1HEART EXCLAMATION MARK ORNAMENT,1BLACK HEART",
  "ROTATED HEAVY BLACK HEART BULLET,FLORAL HEART,ROTATED FLORAL HEART BULLET",
  "MEDIUM LEFT PARENTHESIS ORNAMENT,1RIGHT PARENTHESIS ORNAMENT",
  "1FLATTENED LEFT PARENTHESIS ORNAMENT,2RIGHT PARENTHESIS ORNAMENT",
  "1LEFT-POINTING ANGLE BRACKET ORNAMENT,1RIGHT-POINTING ANGLE BRACKET ORNAMENT",
  "HEAVY LEFT-POINTING ANGLE QUOTATION MARK ORNAMENT",
  "1RIGHT-POINTING ANGLE QUOTATION MARK ORNAMENT,1LEFT-POINTING ANGLE BRACKET ORNAMENT",
  "1RIGHT-POINTING ANGLE BRACKET ORNAMENT,LIGHT LEFT TORTOISE SHELL BRACKET ORNAMENT",
  "1RIGHT TORTOISE SHELL BRACKET ORNAMENT,MEDIUM LEFT CURLY BRACKET ORNAMENT",
  "1RIGHT CURLY BRACKET ORNAMENT,DINGBAT NEGATIVE CIRCLED DIGIT ONE,4TWO,4THREE,4FOUR,4FIVE,4SIX",
  "4SEVEN,4EIGHT,4NINE,3NUMBER TEN,1CIRCLED SANS-SERIF DIGIT ONE,4TWO,4THREE,4FOUR,4FIVE,4SIX",
  "4SEVEN,4EIGHT,4NINE,3NUMBER TEN,1NEGATIVE CIRCLED SANS-SERIF DIGIT ONE,5TWO,5THREE,5FOUR,5FIVE",
  "5SIX,5SEVEN,5EIGHT,5NINE,4NUMBER TEN,HEAVY WIDE-HEADED RIGHTWARDS ARROW,1PLUS SIGN,1MINUS SIGN",
  "1DIVISION SIGN,1SOUTH EAST ARROW,1RIGHTWARDS ARROW,1NORTH EAST ARROW",
  "DRAFTING POINT RIGHTWARDS ARROW,HEAVY ROUND-TIPPED RIGHTWARDS ARROW",
  "TRIANGLE-HEADED RIGHTWARDS ARROW,HEAVY TRIANGLE-HEADED RIGHTWARDS ARROW",
  "DASHED TRIANGLE-HEADED RIGHTWARDS ARROW,HEAVY DASHED TRIANGLE-HEADED RIGHTWARDS ARROW",
  "BLACK RIGHTWARDS ARROW,THREE-D TOP-LIGHTED RIGHTWARDS ARROWHEAD",
  "1BOTTOM-LIGHTED RIGHTWARDS ARROWHEAD,BLACK RIGHTWARDS ARROWHEAD",
  "HEAVY BLACK CURVED DOWNWARDS AND RIGHTWARDS ARROW,3UPWARDS AND RIGHTWARDS ARROW",
  "SQUAT BLACK RIGHTWARDS ARROW,HEAVY CONCAVE-POINTED BLACK RIGHTWARDS ARROW",
  "RIGHT-SHADED WHITE RIGHTWARDS ARROW,LEFT-SHADED WHITE RIGHTWARDS ARROW",
  "BACK-TILTED SHADOWED WHITE RIGHTWARDS ARROW,FRONT-TILTED SHADOWED WHITE RIGHTWARDS ARROW",
  "HEAVY LOWER RIGHT-SHADOWED WHITE RIGHTWARDS ARROW,1UPPER RIGHT-SHADOWED WHITE RIGHTWARDS ARROW",
  "NOTCHED LOWER RIGHT-SHADOWED WHITE RIGHTWARDS ARROW,CURLY LOOP",
  "NOTCHED UPPER RIGHT-SHADOWED WHITE RIGHTWARDS ARROW,CIRCLED HEAVY WHITE RIGHTWARDS ARROW",
  "WHITE-FEATHERED RIGHTWARDS ARROW,BLACK-FEATHERED SOUTH EAST ARROW,1RIGHTWARDS ARROW",
  "1NORTH EAST ARROW,HEAVY BLACK-FEATHERED SOUTH EAST ARROW,2RIGHTWARDS ARROW,2NORTH EAST ARROW",
  "TEARDROP-BARBED RIGHTWARDS ARROW,HEAVY TEARDROP-SHANKED RIGHTWARDS ARROW",
  "WEDGE-TAILED RIGHTWARDS ARROW,HEAVY WEDGE-TAILED RIGHTWARDS ARROW",
  "OPEN-OUTLINED RIGHTWARDS ARROW,DOUBLE CURLY LOOP,THREE DIMENSIONAL ANGLE",
  "WHITE TRIANGLE CONTAINING SMALL WHITE TRIANGLE,PERPENDICULAR,OPEN SUBSET,1SUPERSET",
  "LEFT S-SHAPED BAG DELIMITER,RIGHT S-SHAPED BAG DELIMITER,OR WITH DOT INSIDE",
  "REVERSE SOLIDUS PRECEDING SUBSET,SUPERSET PRECEDING SOLIDUS",
  "VERTICAL BAR WITH HORIZONTAL STROKE,MATHEMATICAL RISING DIAGONAL,LONG DIVISION",
  "MATHEMATICAL FALLING DIAGONAL,SQUARED LOGICAL AND,2OR,WHITE DIAMOND WITH CENTRED DOT",
  "AND WITH DOT,ELEMENT OF OPENING UPWARDS,LOWER RIGHT CORNER WITH DOT,UPPER LEFT CORNER WITH DOT",
  "LEFT OUTER JOIN,RIGHT OUTER JOIN,FULL OUTER JOIN,LARGE UP TACK,1DOWN TACK",
  "LEFT AND RIGHT DOUBLE TURNSTILE,3TACK,1MULTIMAP,LONG RIGHT TACK,1LEFT TACK",
  "UP TACK WITH CIRCLE ABOVE,LOZENGE DIVIDED BY HORIZONTAL RULE,WHITE CONCAVE-SIDED DIAMOND",
  "3WITH LEFTWARDS TICK,4RIGHTWARDS TICK,1SQUARE WITH LEFTWARDS TICK,3RIGHTWARDS TICK",
  "MATHEMATICAL LEFT WHITE SQUARE BRACKET,1RIGHT WHITE SQUARE BRACKET,1LEFT ANGLE BRACKET",
  "1RIGHT ANGLE BRACKET,1LEFT DOUBLE ANGLE BRACKET,1RIGHT DOUBLE ANGLE BRACKET",
  "1LEFT WHITE TORTOISE SHELL BRACKET,1RIGHT WHITE TORTOISE SHELL BRACKET",
  "1LEFT FLATTENED PARENTHESIS,1RIGHT FLATTENED PARENTHESIS,UPWARDS QUADRUPLE ARROW",
  "DOWNWARDS QUADRUPLE ARROW,ANTICLOCKWISE GAPPED CIRCLE ARROW,CLOCKWISE GAPPED CIRCLE ARROW",
  "RIGHT ARROW WITH CIRCLED PLUS,LONG LEFTWARDS ARROW,1RIGHTWARDS ARROW,1LEFT RIGHT ARROW",
  "1LEFTWARDS DOUBLE ARROW,1RIGHTWARDS DOUBLE ARROW,1LEFT RIGHT DOUBLE ARROW",
  "1LEFTWARDS ARROW FROM BAR,1RIGHTWARDS ARROW FROM BAR,1LEFTWARDS DOUBLE ARROW FROM BAR",
  "1RIGHTWARDS DOUBLE ARROW FROM BAR,2SQUIGGLE ARROW,BRAILLE PATTERN BLANK,2DOTS-1,2DOTS-2",
  "2DOTS-12,2DOTS-3,2DOTS-13,2DOTS-23,2DOTS-123,2DOTS-4,2DOTS-14,2DOTS-24,2DOTS-124,2DOTS-34",
  "2DOTS-134,2DOTS-234,2DOTS-1234,2DOTS-5,2DOTS-15,2DOTS-25,2DOTS-125,2DOTS-35,2DOTS-135",
  "2DOTS-235,2DOTS-1235,2DOTS-45,2DOTS-145,2DOTS-245,2DOTS-1245,2DOTS-345,2DOTS-1345,2DOTS-2345",
  "2DOTS-12345,2DOTS-6,2DOTS-16,2DOTS-26,2DOTS-126,2DOTS-36,2DOTS-136,2DOTS-236,2DOTS-1236",
  "2DOTS-46,2DOTS-146,2DOTS-246,2DOTS-1246,2DOTS-346,2DOTS-1346,2DOTS-2346,2DOTS-12346,2DOTS-56",
  "2DOTS-156,2DOTS-256,2DOTS-1256,2DOTS-356,2DOTS-1356,2DOTS-2356,2DOTS-12356,2DOTS-456",
  "2DOTS-1456,2DOTS-2456,2DOTS-12456,2DOTS-3456,2DOTS-13456,2DOTS-23456,2DOTS-123456,2DOTS-7",
  "2DOTS-17,2DOTS-27,2DOTS-127,2DOTS-37,2DOTS-137,2DOTS-237,2DOTS-1237,2DOTS-47,2DOTS-147",
  "2DOTS-247,2DOTS-1247,2DOTS-347,2DOTS-1347,2DOTS-2347,2DOTS-12347,2DOTS-57,2DOTS-157,2DOTS-257",
  "2DOTS-1257,2DOTS-357,2DOTS-1357,2DOTS-2357,2DOTS-12357,2DOTS-457,2DOTS-1457,2DOTS-2457",
  "2DOTS-12457,2DOTS-3457,2DOTS-13457,2DOTS-23457,2DOTS-123457,2DOTS-67,2DOTS-167,2DOTS-267",
  "2DOTS-1267,2DOTS-367,2DOTS-1367,2DOTS-2367,2DOTS-12367,2DOTS-467,2DOTS-1467,2DOTS-2467",
  "2DOTS-12467,2DOTS-3467,2DOTS-13467,2DOTS-23467,2DOTS-123467,2DOTS-567,2DOTS-1567,2DOTS-2567",
  "2DOTS-12567,2DOTS-3567,2DOTS-13567,2DOTS-23567,2DOTS-123567,2DOTS-4567,2DOTS-14567,2DOTS-24567",
  "2DOTS-124567,2DOTS-34567,2DOTS-134567,2DOTS-234567,2DOTS-1234567,2DOTS-8,2DOTS-18,2DOTS-28",
  "2DOTS-128,2DOTS-38,2DOTS-138,2DOTS-238,2DOTS-1238,2DOTS-48,2DOTS-148,2DOTS-248,2DOTS-1248",
  "2DOTS-348,2DOTS-1348,2DOTS-2348,2DOTS-12348,2DOTS-58,2DOTS-158,2DOTS-258,2DOTS-1258,2DOTS-358",
  "2DOTS-1358,2DOTS-2358,2DOTS-12358,2DOTS-458,2DOTS-1458,2DOTS-2458,2DOTS-12458,2DOTS-3458",
  "2DOTS-13458,2DOTS-23458,2DOTS-123458,2DOTS-68,2DOTS-168,2DOTS-268,2DOTS-1268,2DOTS-368",
  "2DOTS-1368,2DOTS-2368,2DOTS-12368,2DOTS-468,2DOTS-1468,2DOTS-2468,2DOTS-12468,2DOTS-3468",
  "2DOTS-13468,2DOTS-23468,2DOTS-123468,2DOTS-568,2DOTS-1568,2DOTS-2568,2DOTS-12568,2DOTS-3568",
  "2DOTS-13568,2DOTS-23568,2DOTS-123568,2DOTS-4568,2DOTS-14568,2DOTS-24568,2DOTS-124568",
  "2DOTS-34568,2DOTS-134568,2DOTS-234568,2DOTS-1234568,2DOTS-78,2DOTS-178,2DOTS-278,2DOTS-1278",
  "2DOTS-378,2DOTS-1378,2DOTS-2378,2DOTS-12378,2DOTS-478,2DOTS-1478,2DOTS-2478,2DOTS-12478",
  "2DOTS-3478,2DOTS-13478,2DOTS-23478,2DOTS-123478,2DOTS-578,2DOTS-1578,2DOTS-2578,2DOTS-12578",
  "2DOTS-3578,2DOTS-13578,2DOTS-23578,2DOTS-123578,2DOTS-4578,2DOTS-14578,2DOTS-24578",
  "2DOTS-124578,2DOTS-34578,2DOTS-134578,2DOTS-234578,2DOTS-1234578,2DOTS-678,2DOTS-1678",
  "2DOTS-2678,2DOTS-12678,2DOTS-3678,2DOTS-13678,2DOTS-23678,2DOTS-123678,2DOTS-4678,2DOTS-14678",
  "2DOTS-24678,2DOTS-124678,2DOTS-34678,2DOTS-134678,2DOTS-234678,2DOTS-1234678,2DOTS-5678",
  "2DOTS-15678,2DOTS-25678,2DOTS-125678,2DOTS-35678,2DOTS-135678,2DOTS-235678,2DOTS-1235678",
  "2DOTS-45678,2DOTS-145678,2DOTS-245678,2DOTS-1245678,2DOTS-345678,2DOTS-1345678,2DOTS-2345678",
  "2DOTS-12345678,RIGHTWARDS TWO-HEADED ARROW WITH VERTICAL STROKE,4DOUBLE VERTICAL STROKE",
  "LEFTWARDS DOUBLE ARROW WITH VERTICAL STROKE,RIGHTWARDS DOUBLE ARROW WITH VERTICAL STROKE",
  "LEFT RIGHT DOUBLE ARROW WITH VERTICAL STROKE,RIGHTWARDS TWO-HEADED ARROW FROM BAR",
  "LEFTWARDS DOUBLE ARROW FROM BAR,RIGHTWARDS DOUBLE ARROW FROM BAR",
  "DOWNWARDS ARROW WITH HORIZONTAL STROKE,UPWARDS ARROW WITH HORIZONTAL STROKE,1TRIPLE ARROW",
  "DOWNWARDS TRIPLE ARROW,LEFTWARDS DOUBLE DASH ARROW,RIGHTWARDS DOUBLE DASH ARROW",
  "LEFTWARDS TRIPLE DASH ARROW,RIGHTWARDS TRIPLE DASH ARROW,1TWO-HEADED TRIPLE DASH ARROW",
  "1ARROW WITH DOTTED STEM,UPWARDS ARROW TO BAR,DOWNWARDS ARROW TO BAR",
  "RIGHTWARDS ARROW WITH TAIL WITH VERTICAL STROKE,5DOUBLE VERTICAL STROKE",
  "1TWO-HEADED ARROW WITH TAIL,5WITH VERTICAL STROKE,6DOUBLE VERTICAL STROKE,LEFTWARDS ARROW-TAIL",
  "RIGHTWARDS ARROW-TAIL,LEFTWARDS DOUBLE ARROW-TAIL,RIGHTWARDS DOUBLE ARROW-TAIL",
  "LEFTWARDS ARROW TO BLACK DIAMOND,RIGHTWARDS ARROW TO BLACK DIAMOND",
  "LEFTWARDS ARROW FROM BAR TO BLACK DIAMOND,RIGHTWARDS ARROW FROM BAR TO BLACK DIAMOND",
  "NORTH WEST AND SOUTH EAST ARROW,1EAST AND SOUTH WEST ARROW,1WEST ARROW WITH HOOK",
  "1EAST ARROW WITH HOOK,SOUTH EAST ARROW WITH HOOK,1WEST ARROW WITH HOOK",
  "NORTH WEST ARROW AND NORTH EAST ARROW,1EAST ARROW AND SOUTH EAST ARROW",
  "SOUTH EAST ARROW AND SOUTH WEST ARROW,1WEST ARROW AND NORTH WEST ARROW",
  "RISING DIAGONAL CROSSING FALLING DIAGONAL,FALLING DIAGONAL CROSSING RISING DIAGONAL",
  "SOUTH EAST ARROW CROSSING NORTH EAST ARROW,NORTH EAST ARROW CROSSING SOUTH EAST ARROW",
  "FALLING DIAGONAL CROSSING NORTH EAST ARROW,RISING DIAGONAL CROSSING SOUTH EAST ARROW",
  "NORTH EAST ARROW CROSSING NORTH WEST ARROW,1WEST ARROW CROSSING NORTH EAST ARROW",
  "WAVE ARROW POINTING DIRECTLY RIGHT,ARROW POINTING RIGHTWARDS THEN CURVING UPWARDS,5DOWNWARDS",
  "2DOWNWARDS THEN CURVING LEFTWARDS,5RIGHTWARDS,RIGHT-SIDE ARC CLOCKWISE ARROW",
  "LEFT-SIDE ARC ANTICLOCKWISE ARROW,TOP ARC ANTICLOCKWISE ARROW,BOTTOM ARC ANTICLOCKWISE ARROW",
  "TOP ARC CLOCKWISE ARROW WITH MINUS,2ANTICLOCKWISE ARROW WITH PLUS",
  "LOWER RIGHT SEMICIRCULAR CLOCKWISE ARROW,1LEFT SEMICIRCULAR ANTICLOCKWISE ARROW",
  "ANTICLOCKWISE CLOSED CIRCLE ARROW,CLOCKWISE CLOSED CIRCLE ARROW",
  "RIGHTWARDS ARROW ABOVE SHORT LEFTWARDS ARROW,LEFTWARDS ARROW ABOVE SHORT RIGHTWARDS ARROW",
  "SHORT RIGHTWARDS ARROW ABOVE LEFTWARDS ARROW,RIGHTWARDS ARROW WITH PLUS BELOW",
  "LEFTWARDS ARROW WITH PLUS BELOW,RIGHTWARDS ARROW THROUGH X",
  "LEFT RIGHT ARROW THROUGH SMALL CIRCLE,UPWARDS TWO-HEADED ARROW FROM SMALL CIRCLE",
  "LEFT BARB UP RIGHT BARB DOWN HARPOON,2DOWN RIGHT BARB UP HARPOON",
  "UP BARB RIGHT DOWN BARB LEFT HARPOON,2LEFT DOWN BARB RIGHT HARPOON",
  "LEFT BARB UP RIGHT BARB UP HARPOON,UP BARB RIGHT DOWN BARB RIGHT HARPOON",
  "LEFT BARB DOWN RIGHT BARB DOWN HARPOON,UP BARB LEFT DOWN BARB LEFT HARPOON",
  "LEFTWARDS HARPOON WITH BARB UP TO BAR,RIGHTWARDS HARPOON WITH BARB UP TO BAR",
  "UPWARDS HARPOON WITH BARB RIGHT TO BAR,DOWNWARDS HARPOON WITH BARB RIGHT TO BAR",
  "LEFTWARDS HARPOON WITH BARB DOWN TO BAR,RIGHTWARDS HARPOON WITH BARB DOWN TO BAR",
  "UPWARDS HARPOON WITH BARB LEFT TO BAR,DOWNWARDS HARPOON WITH BARB LEFT TO BAR",
  "LEFTWARDS HARPOON WITH BARB UP FROM BAR,RIGHTWARDS HARPOON WITH BARB UP FROM BAR",
  "UPWARDS HARPOON WITH BARB RIGHT FROM BAR,DOWNWARDS HARPOON WITH BARB RIGHT FROM BAR",
  "LEFTWARDS HARPOON WITH BARB DOWN FROM BAR,RIGHTWARDS HARPOON WITH BARB DOWN FROM BAR",
  "UPWARDS HARPOON WITH BARB LEFT FROM BAR,DOWNWARDS HARPOON WITH BARB LEFT FROM BAR",
  "LEFTWARDS HARPOON WITH BARB UP ABOVE LEFTWARDS HARPOON WITH BARB DOWN",
  "UPWARDS HARPOON WITH BARB LEFT BESIDE UPWARDS HARPOON WITH BARB RIGHT",
  "RIGHTWARDS HARPOON WITH BARB UP ABOVE RIGHTWARDS HARPOON WITH BARB DOWN",
  "DOWNWARDS HARPOON WITH BARB LEFT BESIDE DOWNWARDS HARPOON WITH BARB RIGHT",
  "LEFTWARDS HARPOON WITH BARB UP ABOVE RIGHTWARDS HARPOON WITH BARB UP",
  "4DOWN ABOVE RIGHTWARDS HARPOON WITH BARB DOWN",
  "RIGHTWARDS HARPOON WITH BARB UP ABOVE LEFTWARDS HARPOON WITH BARB UP",
  "4DOWN ABOVE LEFTWARDS HARPOON WITH BARB DOWN,LEFTWARDS HARPOON WITH BARB UP ABOVE LONG DASH",
  "4DOWN BELOW LONG DASH,RIGHTWARDS HARPOON WITH BARB UP ABOVE LONG DASH,4DOWN BELOW LONG DASH",
  "UPWARDS HARPOON WITH BARB LEFT BESIDE DOWNWARDS HARPOON WITH BARB RIGHT",
  "DOWNWARDS HARPOON WITH BARB LEFT BESIDE UPWARDS HARPOON WITH BARB RIGHT",
  "RIGHT DOUBLE ARROW WITH ROUNDED HEAD,EQUALS SIGN ABOVE RIGHTWARDS ARROW",
  "TILDE OPERATOR ABOVE RIGHTWARDS ARROW,LEFTWARDS ARROW ABOVE TILDE OPERATOR",
  "RIGHTWARDS ARROW ABOVE TILDE OPERATOR,3ALMOST EQUAL TO,LESS-THAN ABOVE LEFTWARDS ARROW",
  "LEFTWARDS ARROW THROUGH LESS-THAN,GREATER-THAN ABOVE RIGHTWARDS ARROW",
  "SUBSET ABOVE RIGHTWARDS ARROW,LEFTWARDS ARROW THROUGH SUBSET,SUPERSET ABOVE LEFTWARDS ARROW",
  "LEFT FISH TAIL,RIGHT FISH TAIL,UP FISH TAIL,DOWN FISH TAIL,TRIPLE VERTICAL BAR DELIMITER",
  "Z NOTATION SPOT,2TYPE COLON,LEFT WHITE CURLY BRACKET,RIGHT WHITE CURLY BRACKET",
  "LEFT WHITE PARENTHESIS,RIGHT WHITE PARENTHESIS,Z NOTATION LEFT IMAGE BRACKET",
  "2RIGHT IMAGE BRACKET,2LEFT BINDING BRACKET,2RIGHT BINDING BRACKET",
  "LEFT SQUARE BRACKET WITH UNDERBAR,RIGHT SQUARE BRACKET WITH UNDERBAR",
  "LEFT SQUARE BRACKET WITH TICK IN TOP CORNER,RIGHT SQUARE BRACKET WITH TICK IN BOTTOM CORNER",
  "LEFT SQUARE BRACKET WITH TICK IN BOTTOM CORNER,RIGHT SQUARE BRACKET WITH TICK IN TOP CORNER",
  "LEFT ANGLE BRACKET WITH DOT,RIGHT ANGLE BRACKET WITH DOT,LEFT ARC LESS-THAN BRACKET",
  "RIGHT ARC GREATER-THAN BRACKET,DOUBLE LEFT ARC GREATER-THAN BRACKET",
  "1RIGHT ARC LESS-THAN BRACKET,LEFT BLACK TORTOISE SHELL BRACKET",
  "RIGHT BLACK TORTOISE SHELL BRACKET,DOTTED FENCE,VERTICAL ZIGZAG LINE",
  "MEASURED ANGLE OPENING LEFT,RIGHT ANGLE VARIANT WITH SQUARE,MEASURED RIGHT ANGLE WITH DOT",
  "ANGLE WITH S INSIDE,ACUTE ANGLE,SPHERICAL ANGLE OPENING LEFT,3UP,TURNED ANGLE,REVERSED ANGLE",
  "ANGLE WITH UNDERBAR,REVERSED ANGLE WITH UNDERBAR,OBLIQUE ANGLE OPENING UP,3DOWN",
  "MEASURED ANGLE WITH OPEN ARM ENDING IN ARROW POINTING UP AND RIGHT,9UP AND LEFT",
  "9DOWN AND RIGHT,9DOWN AND LEFT,9RIGHT AND UP,9LEFT AND UP,9RIGHT AND DOWN,9LEFT AND DOWN",
  "REVERSED EMPTY SET,EMPTY SET WITH OVERBAR,3SMALL CIRCLE ABOVE,3RIGHT ARROW ABOVE",
  "3LEFT ARROW ABOVE,CIRCLE WITH HORIZONTAL BAR,CIRCLED VERTICAL BAR,1PARALLEL,1REVERSE SOLIDUS",
  "1PERPENDICULAR,CIRCLE DIVIDED BY HORIZONTAL BAR AND TOP HALF DIVIDED BY VERTICAL BAR",
  "1WITH SUPERIMPOSED X,CIRCLED ANTICLOCKWISE-ROTATED DIVISION SIGN,UP ARROW THROUGH CIRCLE",
  "CIRCLED WHITE BULLET,1BULLET,1LESS-THAN,1GREATER-THAN,CIRCLE WITH SMALL CIRCLE TO THE RIGHT",
  "2TWO HORIZONTAL STROKES TO THE RIGHT,SQUARED RISING DIAGONAL SLASH,1FALLING DIAGONAL SLASH",
  "1ASTERISK,1SMALL CIRCLE,1SQUARE,TWO JOINED SQUARES,TRIANGLE WITH DOT ABOVE,2UNDERBAR",
  "S IN TRIANGLE,TRIANGLE WITH SERIFS AT BOTTOM,RIGHT TRIANGLE ABOVE LEFT TRIANGLE",
  "LEFT TRIANGLE BESIDE VERTICAL BAR,VERTICAL BAR BESIDE RIGHT TRIANGLE",
  "BOWTIE WITH LEFT HALF BLACK,2RIGHT HALF BLACK,BLACK BOWTIE,TIMES WITH LEFT HALF BLACK",
  "2RIGHT HALF BLACK,WHITE HOURGLASS,BLACK HOURGLASS,LEFT WIGGLY FENCE,RIGHT WIGGLY FENCE",
  "LEFT DOUBLE WIGGLY FENCE,RIGHT DOUBLE WIGGLY FENCE,INCOMPLETE INFINITY,TIE OVER INFINITY",
  "INFINITY NEGATED WITH VERTICAL BAR,DOUBLE-ENDED MULTIMAP,SQUARE WITH CONTOURED OUTLINE",
  "INCREASES AS,SHUFFLE PRODUCT,EQUALS SIGN AND SLANTED PARALLEL,5WITH TILDE ABOVE",
  "IDENTICAL TO AND SLANTED PARALLEL,GLEICH STARK,THERMODYNAMIC",
  "DOWN-POINTING TRIANGLE WITH LEFT HALF BLACK,3RIGHT HALF BLACK,BLACK DIAMOND WITH DOWN ARROW",
  "1LOZENGE,WHITE CIRCLE WITH DOWN ARROW,BLACK CIRCLE WITH DOWN ARROW,ERROR-BARRED WHITE SQUARE",
  "1BLACK SQUARE,1WHITE DIAMOND,1BLACK DIAMOND,1WHITE CIRCLE,1BLACK CIRCLE,RULE-DELAYED",
  "REVERSE SOLIDUS OPERATOR,SOLIDUS WITH OVERBAR,REVERSE SOLIDUS WITH HORIZONTAL STROKE",
  "BIG SOLIDUS,1REVERSE SOLIDUS,DOUBLE PLUS,TRIPLE PLUS,LEFT-POINTING CURVED ANGLE BRACKET",
  "RIGHT-POINTING CURVED ANGLE BRACKET,TINY,MINY,N-ARY CIRCLED DOT OPERATOR,2PLUS OPERATOR",
  "2TIMES OPERATOR,1UNION OPERATOR WITH DOT,4PLUS,1SQUARE INTERSECTION OPERATOR,2UNION OPERATOR",
  "TWO LOGICAL AND OPERATOR,2OR OPERATOR,N-ARY TIMES OPERATOR,MODULO TWO SUM",
  "SUMMATION WITH INTEGRAL,QUADRUPLE INTEGRAL OPERATOR,FINITE PART INTEGRAL",
  "INTEGRAL WITH DOUBLE STROKE,1AVERAGE WITH SLASH,CIRCULATION FUNCTION,ANTICLOCKWISE INTEGRATION",
  "LINE INTEGRATION WITH RECTANGULAR PATH AROUND POLE,3SEMICIRCULAR PATH AROUND POLE",
  "2NOT INCLUDING THE POLE,INTEGRAL AROUND A POINT OPERATOR,QUATERNION INTEGRAL OPERATOR",
  "INTEGRAL WITH LEFTWARDS ARROW WITH HOOK,2TIMES SIGN,2INTERSECTION,2UNION,2OVERBAR,2UNDERBAR",
  "JOIN,LARGE LEFT TRIANGLE OPERATOR,Z NOTATION SCHEMA COMPOSITION,3PIPING,3PROJECTION",
  "PLUS SIGN WITH SMALL CIRCLE ABOVE,3CIRCUMFLEX ACCENT ABOVE,3TILDE ABOVE,3DOT BELOW",
  "3TILDE BELOW,3SUBSCRIPT TWO,3BLACK TRIANGLE,MINUS SIGN WITH COMMA ABOVE,3DOT BELOW",
  "3FALLING DOTS,3RISING DOTS,PLUS SIGN IN LEFT HALF CIRCLE,3RIGHT HALF CIRCLE",
  "VECTOR OR CROSS PRODUCT,MULTIPLICATION SIGN WITH DOT ABOVE,3UNDERBAR",
  "SEMIDIRECT PRODUCT WITH BOTTOM CLOSED,SMASH PRODUCT,MULTIPLICATION SIGN IN LEFT HALF CIRCLE",
  "3RIGHT HALF CIRCLE,CIRCLED MULTIPLICATION SIGN WITH CIRCUMFLEX ACCENT",
  "MULTIPLICATION SIGN IN DOUBLE CIRCLE,CIRCLED DIVISION SIGN,PLUS SIGN IN TRIANGLE",
  "MINUS SIGN IN TRIANGLE,MULTIPLICATION SIGN IN TRIANGLE,INTERIOR PRODUCT",
  "RIGHTHAND INTERIOR PRODUCT,Z NOTATION RELATIONAL COMPOSITION,AMALGAMATION OR COPRODUCT",
  "INTERSECTION WITH DOT,UNION WITH MINUS SIGN,2OVERBAR,INTERSECTION WITH OVERBAR,2LOGICAL AND",
  "UNION WITH LOGICAL OR,1ABOVE INTERSECTION,INTERSECTION ABOVE UNION",
  "UNION ABOVE BAR ABOVE INTERSECTION,INTERSECTION ABOVE BAR ABOVE UNION",
  "UNION BESIDE AND JOINED WITH UNION,INTERSECTION BESIDE AND JOINED WITH INTERSECTION",
  "CLOSED UNION WITH SERIFS,1INTERSECTION WITH SERIFS,DOUBLE SQUARE INTERSECTION,2UNION",
  "CLOSED UNION WITH SERIFS AND SMASH PRODUCT,LOGICAL AND WITH DOT ABOVE,1OR WITH DOT ABOVE",
  "DOUBLE LOGICAL AND,2OR,TWO INTERSECTING LOGICAL AND,3OR,SLOPING LARGE OR,2AND",
  "LOGICAL OR OVERLAPPING LOGICAL AND,1AND WITH MIDDLE STEM,1OR WITH MIDDLE STEM",
  "1AND WITH HORIZONTAL DASH,1OR WITH HORIZONTAL DASH,1AND WITH DOUBLE OVERBAR,3UNDERBAR",
  "3DOUBLE UNDERBAR,SMALL VEE WITH UNDERBAR,LOGICAL OR WITH DOUBLE OVERBAR,4UNDERBAR",
  "Z NOTATION DOMAIN ANTIRESTRICTION,2RANGE ANTIRESTRICTION,EQUALS SIGN WITH DOT BELOW",
  "IDENTICAL WITH DOT ABOVE,TRIPLE HORIZONTAL BAR WITH DOUBLE VERTICAL STROKE",
  "4TRIPLE VERTICAL STROKE,TILDE OPERATOR WITH DOT ABOVE,3RISING DOTS,SIMILAR MINUS SIMILAR",
  "CONGRUENT WITH DOT ABOVE,EQUALS WITH ASTERISK,ALMOST EQUAL TO WITH CIRCUMFLEX ACCENT",
  "APPROXIMATELY EQUAL OR EQUAL TO,EQUALS SIGN ABOVE PLUS SIGN,PLUS SIGN ABOVE EQUALS SIGN",
  "EQUALS SIGN ABOVE TILDE OPERATOR,DOUBLE COLON EQUAL,TWO CONSECUTIVE EQUALS SIGNS",
  "THREE CONSECUTIVE EQUALS SIGNS,EQUALS SIGN WITH TWO DOTS ABOVE AND TWO DOTS BELOW",
  "EQUIVALENT WITH FOUR DOTS ABOVE,LESS-THAN WITH CIRCLE INSIDE,GREATER-THAN WITH CIRCLE INSIDE",
  "LESS-THAN WITH QUESTION MARK ABOVE,GREATER-THAN WITH QUESTION MARK ABOVE",
  "LESS-THAN OR SLANTED EQUAL TO,GREATER-THAN OR SLANTED EQUAL TO",
  "LESS-THAN OR SLANTED EQUAL TO WITH DOT INSIDE,GREATER-THAN OR SLANTED EQUAL TO WITH DOT INSIDE",
  "LESS-THAN OR SLANTED EQUAL TO WITH DOT ABOVE,GREATER-THAN OR SLANTED EQUAL TO WITH DOT ABOVE",
  "LESS-THAN OR SLANTED EQUAL TO WITH DOT ABOVE RIGHT",
  "GREATER-THAN OR SLANTED EQUAL TO WITH DOT ABOVE LEFT,LESS-THAN OR APPROXIMATE",
  "GREATER-THAN OR APPROXIMATE,LESS-THAN AND SINGLE-LINE NOT EQUAL TO",
  "GREATER-THAN AND SINGLE-LINE NOT EQUAL TO,LESS-THAN AND NOT APPROXIMATE",
  "GREATER-THAN AND NOT APPROXIMATE,LESS-THAN ABOVE DOUBLE-LINE EQUAL ABOVE GREATER-THAN",
  "GREATER-THAN ABOVE DOUBLE-LINE EQUAL ABOVE LESS-THAN,LESS-THAN ABOVE SIMILAR OR EQUAL",
  "GREATER-THAN ABOVE SIMILAR OR EQUAL,LESS-THAN ABOVE SIMILAR ABOVE GREATER-THAN",
  "GREATER-THAN ABOVE SIMILAR ABOVE LESS-THAN",
  "LESS-THAN ABOVE GREATER-THAN ABOVE DOUBLE-LINE EQUAL",
  "GREATER-THAN ABOVE LESS-THAN ABOVE DOUBLE-LINE EQUAL",
  "LESS-THAN ABOVE SLANTED EQUAL ABOVE GREATER-THAN ABOVE SLANTED EQUAL",
  "GREATER-THAN ABOVE SLANTED EQUAL ABOVE LESS-THAN ABOVE SLANTED EQUAL",
  "SLANTED EQUAL TO OR LESS-THAN,4GREATER-THAN,4LESS-THAN WITH DOT INSIDE",
  "4GREATER-THAN WITH DOT INSIDE,DOUBLE-LINE EQUAL TO OR LESS-THAN,4GREATER-THAN",
  "1SLANTED EQUAL TO OR LESS-THAN,5GREATER-THAN,SIMILAR OR LESS-THAN,2GREATER-THAN",
  "1ABOVE LESS-THAN ABOVE EQUALS SIGN,2GREATER-THAN ABOVE EQUALS SIGN,DOUBLE NESTED LESS-THAN",
  "2GREATER-THAN,2LESS-THAN WITH UNDERBAR,GREATER-THAN OVERLAPPING LESS-THAN,1BESIDE LESS-THAN",
  "LESS-THAN CLOSED BY CURVE,GREATER-THAN CLOSED BY CURVE",
  "LESS-THAN CLOSED BY CURVE ABOVE SLANTED EQUAL,GREATER-THAN CLOSED BY CURVE ABOVE SLANTED EQUAL",
  "SMALLER THAN,LARGER THAN,SMALLER THAN OR EQUAL TO,LARGER THAN OR EQUAL TO",
  "EQUALS SIGN WITH BUMPY ABOVE,PRECEDES ABOVE SINGLE-LINE EQUALS SIGN",
  "SUCCEEDS ABOVE SINGLE-LINE EQUALS SIGN,PRECEDES ABOVE SINGLE-LINE NOT EQUAL TO",
  "SUCCEEDS ABOVE SINGLE-LINE NOT EQUAL TO,PRECEDES ABOVE EQUALS SIGN,SUCCEEDS ABOVE EQUALS SIGN",
  "PRECEDES ABOVE NOT EQUAL TO,SUCCEEDS ABOVE NOT EQUAL TO,PRECEDES ABOVE ALMOST EQUAL TO",
  "SUCCEEDS ABOVE ALMOST EQUAL TO,PRECEDES ABOVE NOT ALMOST EQUAL TO",
  "SUCCEEDS ABOVE NOT ALMOST EQUAL TO,DOUBLE PRECEDES,1SUCCEEDS,SUBSET WITH DOT,SUPERSET WITH DOT",
  "SUBSET WITH PLUS SIGN BELOW,SUPERSET WITH PLUS SIGN BELOW",
  "SUBSET WITH MULTIPLICATION SIGN BELOW,SUPERSET WITH MULTIPLICATION SIGN BELOW",
  "SUBSET OF OR EQUAL TO WITH DOT ABOVE,SUPERSET OF OR EQUAL TO WITH DOT ABOVE",
  "SUBSET OF ABOVE EQUALS SIGN,SUPERSET OF ABOVE EQUALS SIGN,SUBSET OF ABOVE TILDE OPERATOR",
  "SUPERSET OF ABOVE TILDE OPERATOR,SUBSET OF ABOVE ALMOST EQUAL TO",
  "SUPERSET OF ABOVE ALMOST EQUAL TO,SUBSET OF ABOVE NOT EQUAL TO,SUPERSET OF ABOVE NOT EQUAL TO",
  "SQUARE LEFT OPEN BOX OPERATOR,1RIGHT OPEN BOX OPERATOR,CLOSED SUBSET,1SUPERSET",
  "1SUBSET OR EQUAL TO,1SUPERSET OR EQUAL TO,SUBSET ABOVE SUPERSET,SUPERSET ABOVE SUBSET",
  "SUBSET ABOVE SUBSET,SUPERSET ABOVE SUPERSET,1BESIDE SUBSET,2AND JOINED BY DASH WITH SUBSET",
  "ELEMENT OF OPENING DOWNWARDS,PITCHFORK WITH TEE TOP,TRANSVERSAL INTERSECTION,FORKING",
  "NONFORKING,SHORT LEFT TACK,1DOWN TACK,1UP TACK,PERPENDICULAR WITH S",
  "VERTICAL BAR TRIPLE RIGHT TURNSTILE,DOUBLE VERTICAL BAR LEFT TURNSTILE",
  "VERTICAL BAR DOUBLE LEFT TURNSTILE,DOUBLE VERTICAL BAR DOUBLE LEFT TURNSTILE",
  "LONG DASH FROM LEFT MEMBER OF DOUBLE VERTICAL,SHORT DOWN TACK WITH OVERBAR",
  "1UP TACK WITH UNDERBAR,3ABOVE SHORT DOWN TACK,DOUBLE DOWN TACK,1UP TACK,1STROKE NOT SIGN",
  "REVERSED DOUBLE STROKE NOT SIGN,DOES NOT DIVIDE WITH REVERSED NEGATION SLASH",
  "VERTICAL LINE WITH CIRCLE ABOVE,4BELOW,DOWN TACK WITH CIRCLE BELOW",
  "PARALLEL WITH HORIZONTAL STROKE,2TILDE OPERATOR,TRIPLE VERTICAL BAR BINARY RELATION",
  "3WITH HORIZONTAL STROKE,1COLON OPERATOR,1NESTED LESS-THAN,2GREATER-THAN",
  "DOUBLE-LINE SLANTED LESS-THAN OR EQUAL TO,2GREATER-THAN OR EQUAL TO",
  "TRIPLE SOLIDUS BINARY RELATION,LARGE TRIPLE VERTICAL BAR OPERATOR,DOUBLE SOLIDUS OPERATOR",
  "WHITE VERTICAL BAR,N-ARY WHITE VERTICAL BAR,NORTH EAST WHITE ARROW,1WEST WHITE ARROW",
  "SOUTH EAST WHITE ARROW,1WEST WHITE ARROW,LEFT RIGHT WHITE ARROW,LEFTWARDS BLACK ARROW",
  "UPWARDS BLACK ARROW,DOWNWARDS BLACK ARROW,NORTH EAST BLACK ARROW,1WEST BLACK ARROW",
  "SOUTH EAST BLACK ARROW,1WEST BLACK ARROW,LEFT RIGHT BLACK ARROW,UP DOWN BLACK ARROW",
  "RIGHTWARDS ARROW WITH TIP DOWNWARDS,4UPWARDS,LEFTWARDS ARROW WITH TIP DOWNWARDS,4UPWARDS",
  "SQUARE WITH TOP HALF BLACK,2BOTTOM HALF BLACK,2UPPER RIGHT DIAGONAL HALF BLACK",
  "2LOWER LEFT DIAGONAL HALF BLACK,DIAMOND WITH LEFT HALF BLACK,2RIGHT HALF BLACK,2TOP HALF BLACK",
  "2BOTTOM HALF BLACK,DOTTED SQUARE,BLACK LARGE SQUARE,WHITE LARGE SQUARE,BLACK VERY SMALL SQUARE",
  "WHITE VERY SMALL SQUARE,BLACK PENTAGON,WHITE PENTAGON,1HEXAGON,BLACK HEXAGON",
  "HORIZONTAL BLACK HEXAGON,BLACK LARGE CIRCLE,1MEDIUM DIAMOND,WHITE MEDIUM DIAMOND",
  "BLACK MEDIUM LOZENGE,WHITE MEDIUM LOZENGE,BLACK SMALL DIAMOND,2LOZENGE,WHITE SMALL LOZENGE",
  "BLACK HORIZONTAL ELLIPSE,WHITE HORIZONTAL ELLIPSE,BLACK VERTICAL ELLIPSE",
  "WHITE VERTICAL ELLIPSE,LEFT ARROW WITH SMALL CIRCLE,THREE LEFTWARDS ARROWS",
  "LEFT ARROW WITH CIRCLED PLUS,LONG LEFTWARDS SQUIGGLE ARROW",
  "LEFTWARDS TWO-HEADED ARROW WITH VERTICAL STROKE,4DOUBLE VERTICAL STROKE,3FROM BAR",
  "2TRIPLE DASH ARROW,1ARROW WITH DOTTED STEM,3TAIL WITH VERTICAL STROKE,5DOUBLE VERTICAL STROKE",
  "1TWO-HEADED ARROW WITH TAIL,5WITH VERTICAL STROKE,6DOUBLE VERTICAL STROKE,1ARROW THROUGH X",
  "WAVE ARROW POINTING DIRECTLY LEFT,EQUALS SIGN ABOVE LEFTWARDS ARROW",
  "REVERSE TILDE OPERATOR ABOVE LEFTWARDS ARROW,LEFTWARDS ARROW ABOVE REVERSE ALMOST EQUAL TO",
  "RIGHTWARDS ARROW THROUGH GREATER-THAN,3SUPERSET,LEFTWARDS QUADRUPLE ARROW",
  "RIGHTWARDS QUADRUPLE ARROW,REVERSE TILDE OPERATOR ABOVE RIGHTWARDS ARROW",
  "RIGHTWARDS ARROW ABOVE REVERSE ALMOST EQUAL TO,TILDE OPERATOR ABOVE LEFTWARDS ARROW",
  "LEFTWARDS ARROW ABOVE ALMOST EQUAL TO,3REVERSE TILDE OPERATOR",
  "RIGHTWARDS ARROW ABOVE REVERSE TILDE OPERATOR,DOWNWARDS TRIANGLE-HEADED ZIGZAG ARROW",
  "SHORT SLANTED NORTH ARROW,1BACKSLANTED SOUTH ARROW,WHITE MEDIUM STAR,BLACK SMALL STAR",
  "WHITE SMALL STAR,BLACK RIGHT-POINTING PENTAGON,WHITE RIGHT-POINTING PENTAGON",
  "HEAVY LARGE CIRCLE,1OVAL WITH OVAL INSIDE,1CIRCLE WITH CIRCLE INSIDE,2,1CIRCLED SALTIRE",
  "SLANTED NORTH ARROW WITH HOOKED HEAD,BACKSLANTED SOUTH ARROW WITH HOOKED TAIL",
  "SLANTED NORTH ARROW WITH HORIZONTAL TAIL,BACKSLANTED SOUTH ARROW WITH HORIZONTAL TAIL",
  "BENT ARROW POINTING DOWNWARDS THEN NORTH EAST",
  "SHORT BENT ARROW POINTING DOWNWARDS THEN NORTH EAST,LEFTWARDS TRIANGLE-HEADED ARROW",
  "UPWARDS TRIANGLE-HEADED ARROW,RIGHTWARDS TRIANGLE-HEADED ARROW,DOWNWARDS TRIANGLE-HEADED ARROW",
  "LEFT RIGHT TRIANGLE-HEADED ARROW,UP DOWN TRIANGLE-HEADED ARROW",
  "NORTH WEST TRIANGLE-HEADED ARROW,1EAST TRIANGLE-HEADED ARROW,SOUTH EAST TRIANGLE-HEADED ARROW",
  "1WEST TRIANGLE-HEADED ARROW,LEFTWARDS TRIANGLE-HEADED DASHED ARROW",
  "UPWARDS TRIANGLE-HEADED DASHED ARROW,RIGHTWARDS TRIANGLE-HEADED DASHED ARROW",
  "DOWNWARDS TRIANGLE-HEADED DASHED ARROW,CLOCKWISE TRIANGLE-HEADED OPEN CIRCLE ARROW",
  "ANTICLOCKWISE TRIANGLE-HEADED OPEN CIRCLE ARROW,LEFTWARDS TRIANGLE-HEADED ARROW TO BAR",
  "UPWARDS TRIANGLE-HEADED ARROW TO BAR,RIGHTWARDS TRIANGLE-HEADED ARROW TO BAR",
  "DOWNWARDS TRIANGLE-HEADED ARROW TO BAR,=2B76,NORTH WEST TRIANGLE-HEADED ARROW TO BAR",
  "1EAST TRIANGLE-HEADED ARROW TO BAR,SOUTH EAST TRIANGLE-HEADED ARROW TO BAR",
  "1WEST TRIANGLE-HEADED ARROW TO BAR",
  "LEFTWARDS TRIANGLE-HEADED ARROW WITH DOUBLE HORIZONTAL STROKE",
  "UPWARDS TRIANGLE-HEADED ARROW WITH DOUBLE HORIZONTAL STROKE",
  "RIGHTWARDS TRIANGLE-HEADED ARROW WITH DOUBLE HORIZONTAL STROKE",
  "DOWNWARDS TRIANGLE-HEADED ARROW WITH DOUBLE HORIZONTAL STROKE,HORIZONTAL TAB KEY",
  "VERTICAL TAB KEY,LEFTWARDS TRIANGLE-HEADED ARROW OVER RIGHTWARDS TRIANGLE-HEADED ARROW",
  "UPWARDS TRIANGLE-HEADED ARROW LEFTWARDS OF DOWNWARDS TRIANGLE-HEADED ARROW",
  "RIGHTWARDS TRIANGLE-HEADED ARROW OVER LEFTWARDS TRIANGLE-HEADED ARROW",
  "DOWNWARDS TRIANGLE-HEADED ARROW LEFTWARDS OF UPWARDS TRIANGLE-HEADED ARROW",
  "LEFTWARDS TRIANGLE-HEADED PAIRED ARROWS,UPWARDS TRIANGLE-HEADED PAIRED ARROWS",
  "RIGHTWARDS TRIANGLE-HEADED PAIRED ARROWS,DOWNWARDS TRIANGLE-HEADED PAIRED ARROWS",
  "LEFTWARDS BLACK CIRCLED WHITE ARROW,UPWARDS BLACK CIRCLED WHITE ARROW",
  "RIGHTWARDS BLACK CIRCLED WHITE ARROW,DOWNWARDS BLACK CIRCLED WHITE ARROW",
  "ANTICLOCKWISE TRIANGLE-HEADED RIGHT U-SHAPED ARROW,2BOTTOM U-SHAPED ARROW,2LEFT U-SHAPED ARROW",
  "2TOP U-SHAPED ARROW,RETURN LEFT,1RIGHT,NEWLINE LEFT,1RIGHT",
  "FOUR CORNER ARROWS CIRCLING ANTICLOCKWISE,RIGHTWARDS BLACK ARROW,=2B97",
  "SYMBOL FOR TYPE A ELECTRONICS,THREE-D TOP-LIGHTED LEFTWARDS EQUILATERAL ARROWHEAD",
  "1RIGHT-LIGHTED UPWARDS EQUILATERAL ARROWHEAD,1TOP-LIGHTED RIGHTWARDS EQUILATERAL ARROWHEAD",
  "1LEFT-LIGHTED DOWNWARDS EQUILATERAL ARROWHEAD,BLACK LEFTWARDS EQUILATERAL ARROWHEAD",
  "1UPWARDS EQUILATERAL ARROWHEAD,1RIGHTWARDS EQUILATERAL ARROWHEAD",
  "1DOWNWARDS EQUILATERAL ARROWHEAD,DOWNWARDS TRIANGLE-HEADED ARROW WITH LONG TIP LEFTWARDS",
  "6RIGHTWARDS,UPWARDS TRIANGLE-HEADED ARROW WITH LONG TIP LEFTWARDS,6RIGHTWARDS",
  "LEFTWARDS TRIANGLE-HEADED ARROW WITH LONG TIP UPWARDS",
  "RIGHTWARDS TRIANGLE-HEADED ARROW WITH LONG TIP UPWARDS",
  "LEFTWARDS TRIANGLE-HEADED ARROW WITH LONG TIP DOWNWARDS",
  "RIGHTWARDS TRIANGLE-HEADED ARROW WITH LONG TIP DOWNWARDS",
  "BLACK CURVED DOWNWARDS AND LEFTWARDS ARROW,4RIGHTWARDS ARROW,2UPWARDS AND LEFTWARDS ARROW",
  "4RIGHTWARDS ARROW,2LEFTWARDS AND UPWARDS ARROW,2RIGHTWARDS AND UPWARDS ARROW",
  "2LEFTWARDS AND DOWNWARDS ARROW,2RIGHTWARDS AND DOWNWARDS ARROW,RIBBON ARROW DOWN LEFT,3RIGHT",
  "2UP LEFT,3RIGHT,2LEFT UP,2RIGHT UP,2LEFT DOWN,2RIGHT DOWN",
  "UPWARDS WHITE ARROW FROM BAR WITH HORIZONTAL BAR,UP ARROWHEAD IN A RECTANGLE BOX",
  "OVERLAPPING WHITE SQUARES,2AND BLACK SQUARES,1BLACK SQUARES,BALLOT BOX WITH LIGHT X,CIRCLED X",
  "1BOLD X,BLACK SQUARE CENTRED,1DIAMOND CENTRED,TURNED BLACK PENTAGON,HORIZONTAL BLACK OCTAGON",
  "BLACK OCTAGON,1MEDIUM UP-POINTING TRIANGLE CENTRED,2DOWN-POINTING TRIANGLE CENTRED",
  "2LEFT-POINTING TRIANGLE CENTRED,2RIGHT-POINTING TRIANGLE CENTRED,NEPTUNE FORM TWO",
  "TOP HALF BLACK CIRCLE,BOTTOM HALF BLACK CIRCLE,LIGHT FOUR POINTED BLACK CUSP",
  "ROTATED LIGHT FOUR POINTED BLACK CUSP,WHITE FOUR POINTED CUSP,ROTATED WHITE FOUR POINTED CUSP",
  "SQUARE POSITION INDICATOR,UNCERTAINTY SIGN,GROUP MARK,PLUTO FORM TWO,2THREE,2FOUR,2FIVE",
  "TRANSPLUTO,PROSERPINA,ASTRAEA,HYGIEA,PHOLUS,NESSUS,WHITE MOON SELENA,BLACK DIAMOND ON CROSS",
  "TRUE LIGHT MOON ARTA,CUPIDO,HADES,ZEUS,KRONOS,APOLLON,ADMETOS,VULCANUS,POSEIDON",
  "LEFT HALF BLACK STAR,RIGHT HALF BLACK STAR,STAR WITH LEFT HALF BLACK,2RIGHT HALF BLACK",
  "LEFTWARDS TWO-HEADED ARROW WITH TRIANGLE ARROWHEADS",
  "UPWARDS TWO-HEADED ARROW WITH TRIANGLE ARROWHEADS",
  "RIGHTWARDS TWO-HEADED ARROW WITH TRIANGLE ARROWHEADS",
  "DOWNWARDS TWO-HEADED ARROW WITH TRIANGLE ARROWHEADS,ERIS FORM ONE,2TWO,SEDNA",
  "RUSSIAN ASTROLOGICAL SYMBOL VIGINTILE,3NOVILE,3QUINTILE,3BINOVILE,3SENTAGON,3TREDECILE",
  "EQUALS SIGN WITH INFINITY BELOW,UNITED SYMBOL,SEPARATED SYMBOL,DOUBLED SYMBOL,PASSED SYMBOL",
  "REVERSED RIGHT ANGLE,HELLSCHREIBER PAUSE SYMBOL"]

end TemplateWorkbench.Unicode
