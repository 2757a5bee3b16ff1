/-!
# Names of characters: asia

The names of the characters from 0900 to 1399, for the scripts of South and Southeast Asia and the Caucasus.
-/

namespace TemplateWorkbench.Unicode

/-- The names for the scripts of South and Southeast Asia and the Caucasus, in lines. -/
def asianNames : List String := [
  "=900,DEVANAGARI SIGN INVERTED CANDRABINDU,2CANDRABINDU,2ANUSVARA,2VISARGA,1LETTER SHORT A,2A",
  "2AA,2I,2II,2U,2UU,2VOCALIC R,3L,2CANDRA E,2SHORT E,2E,2AI,2CANDRA O,2SHORT O,2O,2AU,2KA,2KHA",
  "2GA,2GHA,2NGA,2CA,2CHA,2JA,2JHA,2NYA,2TTA,2TTHA,2DDA,2DDHA,2NNA,2TA,2THA,2DA,2DHA,2NA,2NNNA",
  "2PA,2PHA,2BA,2BHA,2MA,2YA,2RA,2RRA,2LA,2LLA,2LLLA,2VA,2SHA,2SSA,2SA,2HA,1VOWEL SIGN OE,3OOE",
  "1SIGN NUKTA,2AVAGRAHA,1VOWEL SIGN AA,3I,3II,3U,3UU,3VOCALIC R,4RR,3CANDRA E,3SHORT E,3E,3AI",
  "3CANDRA O,3SHORT O,3O,3AU,1SIGN VIRAMA,1VOWEL SIGN PRISHTHAMATRA E,3AW,1OM,1STRESS SIGN UDATTA",
  "3ANUDATTA,1GRAVE ACCENT,1ACUTE ACCENT,1VOWEL SIGN CANDRA LONG E,3UE,3UUE,1LETTER QA,2KHHA",
  "2GHHA,2ZA,2DDDHA,2RHA,2FA,2YYA,2VOCALIC RR,3LL,1VOWEL SIGN VOCALIC L,4LL,1DANDA,1DOUBLE DANDA",
  "1DIGIT ZERO,2ONE,2TWO,2THREE,2FOUR,2FIVE,2SIX,2SEVEN,2EIGHT,2NINE,1ABBREVIATION SIGN",
  "1SIGN HIGH SPACING DOT,1LETTER CANDRA A,2OE,2OOE,2AW,2UE,2UUE,2MARWARI DDA,2ZHA,2HEAVY YA,2GGA",
  "2JJA,2GLOTTAL STOP,2DDDA,2BBA,BENGALI ANJI,1SIGN CANDRABINDU,2ANUSVARA,2VISARGA,=985,1LETTER A",
  "2AA,2I,2II,2U,2UU,2VOCALIC R,3L,=98F,2E,2AI,=993,2O,2AU,2KA,2KHA,2GA,2GHA,2NGA,2CA,2CHA,2JA",
  "2JHA,2NYA,2TTA,2TTHA,2DDA,2DDHA,2NNA,2TA,2THA,2DA,2DHA,2NA,=9AA,2PA,2PHA,2BA,2BHA,2MA,2YA,2RA",
  "=9B2,2LA,=9B6,2SHA,2SSA,2SA,2HA,=9BC,1SIGN NUKTA,2AVAGRAHA,1VOWEL SIGN AA,3I,3II,3U,3UU",
  "3VOCALIC R,4RR,=9C7,3E,3AI,=9CB,3O,3AU,1SIGN VIRAMA,1LETTER KHANDA TA,=9D7,1AU LENGTH MARK",
  "=9DC,1LETTER RRA,2RHA,=9DF,2YYA,2VOCALIC RR,3LL,1VOWEL SIGN VOCALIC L,4LL,=9E6,1DIGIT ZERO",
  "2ONE,2TWO,2THREE,2FOUR,2FIVE,2SIX,2SEVEN,2EIGHT,2NINE,1LETTER RA WITH MIDDLE DIAGONAL",
  "4LOWER DIAGONAL,1RUPEE MARK,2SIGN,1CURRENCY NUMERATOR ONE,3TWO,3THREE,3FOUR",
  "3ONE LESS THAN THE DENOMINATOR,2DENOMINATOR SIXTEEN,1ISSHAR,1GANDA MARK,1LETTER VEDIC ANUSVARA",
  "1ABBREVIATION SIGN,1SANDHI MARK,=A01,GURMUKHI SIGN ADAK BINDI,2BINDI,2VISARGA,=A05,1LETTER A",
  "2AA,2I,2II,2U,2UU,=A0F,2EE,2AI,=A13,2OO,2AU,2KA,2KHA,2GA,2GHA,2NGA,2CA,2CHA,2JA,2JHA,2NYA,2TTA",
  "2TTHA,2DDA,2DDHA,2NNA,2TA,2THA,2DA,2DHA,2NA,=A2A,2PA,2PHA,2BA,2BHA,2MA,2YA,2RA,=A32,2LA,2LLA",
  "=A35,2VA,2SHA,=A38,2SA,2HA,=A3C,1SIGN NUKTA,=A3E,1VOWEL SIGN AA,3I,3II,3U,3UU,=A47,3EE,3AI",
  "=A4B,3OO,3AU,1SIGN VIRAMA,=A51,2UDAAT,=A59,1LETTER KHHA,2GHHA,2ZA,2RRA,=A5E,2FA,=A66",
  "1DIGIT ZERO,2ONE,2TWO,2THREE,2FOUR,2FIVE,2SIX,2SEVEN,2EIGHT,2NINE,1TIPPI,1ADDAK,1IRI,1URA",
  "1EK ONKAR,1SIGN YAKASH,1ABBREVIATION SIGN,=A81,GUJARATI SIGN CANDRABINDU,2ANUSVARA,2VISARGA",
  "=A85,1LETTER A,2AA,2I,2II,2U,2UU,2VOCALIC R,3L,1VOWEL CANDRA E,=A8F,1LETTER E,2AI",
  "1VOWEL CANDRA O,=A93,1LETTER O,2AU,2KA,2KHA,2GA,2GHA,2NGA,2CA,2CHA,2JA,2JHA,2NYA,2TTA,2TTHA",
  "2DDA,2DDHA,2NNA,2TA,2THA,2DA,2DHA,2NA,=AAA,2PA,2PHA,2BA,2BHA,2MA,2YA,2RA,=AB2,2LA,2LLA,=AB5",
  "2VA,2SHA,2SSA,2SA,2HA,=ABC,1SIGN NUKTA,2AVAGRAHA,1VOWEL SIGN AA,3I,3II,3U,3UU,3VOCALIC R,4RR",
  "3CANDRA E,=AC7,3E,3AI,3CANDRA O,=ACB,3O,3AU,1SIGN VIRAMA,=AD0,1OM,=AE0,1LETTER VOCALIC RR,3LL",
  "1VOWEL SIGN VOCALIC L,4LL,=AE6,1DIGIT ZERO,2ONE,2TWO,2THREE,2FOUR,2FIVE,2SIX,2SEVEN,2EIGHT",
  "2NINE,1ABBREVIATION SIGN,1RUPEE SIGN,=AF9,1LETTER ZHA,1SIGN SUKUN,2SHADDA,2MADDAH",
  "2THREE-DOT NUKTA ABOVE,2CIRCLE NUKTA ABOVE,2TWO-CIRCLE NUKTA ABOVE,=B01,ORIYA SIGN CANDRABINDU",
  "2ANUSVARA,2VISARGA,=B05,1LETTER A,2AA,2I,2II,2U,2UU,2VOCALIC R,3L,=B0F,2E,2AI,=B13,2O,2AU,2KA",
  "2KHA,2GA,2GHA,2NGA,2CA,2CHA,2JA,2JHA,2NYA,2TTA,2TTHA,2DDA,2DDHA,2NNA,2TA,2THA,2DA,2DHA,2NA",
  "=B2A,2PA,2PHA,2BA,2BHA,2MA,2YA,2RA,=B32,2LA,2LLA,=B35,2VA,2SHA,2SSA,2SA,2HA,=B3C,1SIGN NUKTA",
  "2AVAGRAHA,1VOWEL SIGN AA,3I,3II,3U,3UU,3VOCALIC R,4RR,=B47,3E,3AI,=B4B,3O,3AU,1SIGN VIRAMA",
  "=B55,2OVERLINE,1AI LENGTH MARK,1AU LENGTH MARK,=B5C,1LETTER RRA,2RHA,=B5F,2YYA,2VOCALIC RR,3LL",
  "1VOWEL SIGN VOCALIC L,4LL,=B66,1DIGIT ZERO,2ONE,2TWO,2THREE,2FOUR,2FIVE,2SIX,2SEVEN,2EIGHT",
  "2NINE,1ISSHAR,1LETTER WA,1FRACTION ONE QUARTER,3HALF,2THREE QUARTERS,2ONE SIXTEENTH,3EIGHTH",
  "2THREE SIXTEENTHS,=B82,TAMIL SIGN ANUSVARA,2VISARGA,=B85,1LETTER A,2AA,2I,2II,2U,2UU,=B8E,2E",
  "2EE,2AI,=B92,2O,2OO,2AU,2KA,=B99,2NGA,2CA,=B9C,2JA,=B9E,2NYA,2TTA,=BA3,2NNA,2TA,=BA8,2NA,2NNNA",
  "2PA,=BAE,2MA,2YA,2RA,2RRA,2LA,2LLA,2LLLA,2VA,2SHA,2SSA,2SA,2HA,=BBE,1VOWEL SIGN AA,3I,3II,3U",
  "3UU,=BC6,3E,3EE,3AI,=BCA,3O,3OO,3AU,1SIGN VIRAMA,=BD0,1OM,=BD7,1AU LENGTH MARK,=BE6",
  "1DIGIT ZERO,2ONE,2TWO,2THREE,2FOUR,2FIVE,2SIX,2SEVEN,2EIGHT,2NINE,1NUMBER TEN,2ONE HUNDRED",
  "3THOUSAND,1DAY SIGN,1MONTH SIGN,1YEAR SIGN,1DEBIT SIGN,1CREDIT SIGN,1AS ABOVE SIGN,1RUPEE SIGN",
  "1NUMBER SIGN,=C00,TELUGU SIGN COMBINING CANDRABINDU ABOVE,2CANDRABINDU,2ANUSVARA,2VISARGA",
  "2COMBINING ANUSVARA ABOVE,1LETTER A,2AA,2I,2II,2U,2UU,2VOCALIC R,3L,=C0E,2E,2EE,2AI,=C12,2O",
  "2OO,2AU,2KA,2KHA,2GA,2GHA,2NGA,2CA,2CHA,2JA,2JHA,2NYA,2TTA,2TTHA,2DDA,2DDHA,2NNA,2TA,2THA,2DA",
  "2DHA,2NA,=C2A,2PA,2PHA,2BA,2BHA,2MA,2YA,2RA,2RRA,2LA,2LLA,2LLLA,2VA,2SHA,2SSA,2SA,2HA,=C3C",
  "1SIGN NUKTA,2AVAGRAHA,1VOWEL SIGN AA,3I,3II,3U,3UU,3VOCALIC R,4RR,=C46,3E,3EE,3AI,=C4A,3O,3OO",
  "3AU,1SIGN VIRAMA,=C55,1LENGTH MARK,1AI LENGTH MARK,=C58,1LETTER TSA,2DZA,2RRRA,=C5D",
  "2NAKAARA POLLU,=C60,2VOCALIC RR,3LL,1VOWEL SIGN VOCALIC L,4LL,=C66,1DIGIT ZERO,2ONE,2TWO",
  "2THREE,2FOUR,2FIVE,2SIX,2SEVEN,2EIGHT,2NINE,=C77,1SIGN SIDDHAM",
  "1FRACTION DIGIT ZERO FOR ODD POWERS OF FOUR,3ONE FOR ODD POWERS OF FOUR",
  "3TWO FOR ODD POWERS OF FOUR,3THREE FOR ODD POWERS OF FOUR,3ONE FOR EVEN POWERS OF FOUR",
  "3TWO FOR EVEN POWERS OF FOUR,3THREE FOR EVEN POWERS OF FOUR,1SIGN TUUMU",
  "KANNADA SIGN SPACING CANDRABINDU,2CANDRABINDU,2ANUSVARA,2VISARGA,2SIDDHAM,1LETTER A,2AA,2I,2II",
  "2U,2UU,2VOCALIC R,3L,=C8E,2E,2EE,2AI,=C92,2O,2OO,2AU,2KA,2KHA,2GA,2GHA,2NGA,2CA,2CHA,2JA,2JHA",
  "2NYA,2TTA,2TTHA,2DDA,2DDHA,2NNA,2TA,2THA,2DA,2DHA,2NA,=CAA,2PA,2PHA,2BA,2BHA,2MA,2YA,2RA,2RRA",
  "2LA,2LLA,=CB5,2VA,2SHA,2SSA,2SA,2HA,=CBC,1SIGN NUKTA,2AVAGRAHA,1VOWEL SIGN AA,3I,3II,3U,3UU",
  "3VOCALIC R,4RR,=CC6,3E,3EE,3AI,=CCA,3O,3OO,3AU,1SIGN VIRAMA,=CD5,1LENGTH MARK,1AI LENGTH MARK",
  "=CDD,1LETTER NAKAARA POLLU,2FA,=CE0,2VOCALIC RR,3LL,1VOWEL SIGN VOCALIC L,4LL,=CE6,1DIGIT ZERO",
  "2ONE,2TWO,2THREE,2FOUR,2FIVE,2SIX,2SEVEN,2EIGHT,2NINE,=CF1,1SIGN JIHVAMULIYA,2UPADHMANIYA,=D00",
  "MALAYALAM SIGN COMBINING ANUSVARA ABOVE,2CANDRABINDU,2ANUSVARA,2VISARGA,1LETTER VEDIC ANUSVARA",
  "2A,2AA,2I,2II,2U,2UU,2VOCALIC R,3L,=D0E,2E,2EE,2AI,=D12,2O,2OO,2AU,2KA,2KHA,2GA,2GHA,2NGA,2CA",
  "2CHA,2JA,2JHA,2NYA,2TTA,2TTHA,2DDA,2DDHA,2NNA,2TA,2THA,2DA,2DHA,2NA,2NNNA,2PA,2PHA,2BA,2BHA",
  "2MA,2YA,2RA,2RRA,2LA,2LLA,2LLLA,2VA,2SHA,2SSA,2SA,2HA,2TTTA,1SIGN VERTICAL BAR VIRAMA",
  "2CIRCULAR VIRAMA,2AVAGRAHA,1VOWEL SIGN AA,3I,3II,3U,3UU,3VOCALIC R,4RR,=D46,3E,3EE,3AI,=D4A,3O",
  "3OO,3AU,1SIGN VIRAMA,1LETTER DOT REPH,1SIGN PARA,=D54,1LETTER CHILLU M,3Y,3LLL,1AU LENGTH MARK",
  "1FRACTION ONE ONE-HUNDRED-AND-SIXTIETH,3FORTIETH,2THREE EIGHTIETHS,2ONE TWENTIETH,3TENTH",
  "2THREE TWENTIETHS,2ONE FIFTH,1LETTER ARCHAIC II,2VOCALIC RR,3LL,1VOWEL SIGN VOCALIC L,4LL,=D66",
  "1DIGIT ZERO,2ONE,2TWO,2THREE,2FOUR,2FIVE,2SIX,2SEVEN,2EIGHT,2NINE,1NUMBER TEN,2ONE HUNDRED",
  "3THOUSAND,1FRACTION ONE QUARTER,3HALF,2THREE QUARTERS,2ONE SIXTEENTH,3EIGHTH,2THREE SIXTEENTHS",
  "1DATE MARK,1LETTER CHILLU NN,3N,3RR,3L,3LL,3K,=D81,SINHALA SIGN CANDRABINDU,2ANUSVARAYA",
  "2VISARGAYA,=D85,1LETTER AYANNA,2AAYANNA,2AEYANNA,2AEEYANNA,2IYANNA,2IIYANNA,2UYANNA,2UUYANNA",
  "2IRUYANNA,2IRUUYANNA,2ILUYANNA,2ILUUYANNA,2EYANNA,2EEYANNA,2AIYANNA,2OYANNA,2OOYANNA,2AUYANNA",
  "=D9A,2ALPAPRAANA KAYANNA,2MAHAAPRAANA KAYANNA,2ALPAPRAANA GAYANNA,2MAHAAPRAANA GAYANNA",
  "2KANTAJA NAASIKYAYA,2SANYAKA GAYANNA,2ALPAPRAANA CAYANNA,2MAHAAPRAANA CAYANNA",
  "2ALPAPRAANA JAYANNA,2MAHAAPRAANA JAYANNA,2TAALUJA NAASIKYAYA,3SANYOOGA NAAKSIKYAYA",
  "2SANYAKA JAYANNA,2ALPAPRAANA TTAYANNA,2MAHAAPRAANA TTAYANNA,2ALPAPRAANA DDAYANNA",
  "2MAHAAPRAANA DDAYANNA,2MUURDHAJA NAYANNA,2SANYAKA DDAYANNA,2ALPAPRAANA TAYANNA",
  "2MAHAAPRAANA TAYANNA,2ALPAPRAANA DAYANNA,2MAHAAPRAANA DAYANNA,2DANTAJA NAYANNA,=DB3",
  "2SANYAKA DAYANNA,2ALPAPRAANA PAYANNA,2MAHAAPRAANA PAYANNA,2ALPAPRAANA BAYANNA",
  "2MAHAAPRAANA BAYANNA,2MAYANNA,2AMBA BAYANNA,2YAYANNA,2RAYANNA,=DBD,2DANTAJA LAYANNA,=DC0",
  "2VAYANNA,2TAALUJA SAYANNA,2MUURDHAJA SAYANNA,2DANTAJA SAYANNA,2HAYANNA,2MUURDHAJA LAYANNA",
  "2FAYANNA,=DCA,1SIGN AL-LAKUNA,=DCF,1VOWEL SIGN AELA-PILLA,3KETTI AEDA-PILLA,3DIGA AEDA-PILLA",
  "3KETTI IS-PILLA,3DIGA IS-PILLA,3KETTI PAA-PILLA,=DD6,3DIGA PAA-PILLA,=DD8,3GAETTA-PILLA",
  "3KOMBUVA,3DIGA KOMBUVA,3KOMBU DEKA,3KOMBUVA HAA AELA-PILLA,5DIGA AELA-PILLA,5GAYANUKITTA",
  "3GAYANUKITTA,=DE6,1LITH DIGIT ZERO,3ONE,3TWO,3THREE,3FOUR,3FIVE,3SIX,3SEVEN,3EIGHT,3NINE,=DF2",
  "1VOWEL SIGN DIGA GAETTA-PILLA,4GAYANUKITTA,1PUNCTUATION KUNDDALIYA,=E01,THAI CHARACTER KO KAI",
  "2KHO KHAI,3KHUAT,3KHWAI,3KHON,3RAKHANG,2NGO NGU,2CHO CHAN,3CHING,3CHANG,2SO SO,2CHO CHOE",
  "2YO YING,2DO CHADA,2TO PATAK,2THO THAN,3NANGMONTHO,3PHUTHAO,2NO NEN,2DO DEK,2TO TAO,2THO THUNG",
  "3THAHAN,3THONG,2NO NU,2BO BAIMAI,2PO PLA,2PHO PHUNG,2FO FA,2PHO PHAN,2FO FAN,2PHO SAMPHAO",
  "2MO MA,2YO YAK,2RO RUA,2RU,2LO LING,2LU,2WO WAEN,2SO SALA,3RUSI,3SUA,2HO HIP,2LO CHULA,2O ANG",
  "2HO NOKHUK,2PAIYANNOI,2SARA A,2MAI HAN-AKAT,2SARA AA,3AM,3I,3II,3UE,3UEE,3U,3UU,2PHINTHU,=E3F",
  "1CURRENCY SYMBOL BAHT,1CHARACTER SARA E,3AE,3O,3AI MAIMUAN,4MAIMALAI,2LAKKHANGYAO,2MAIYAMOK",
  "2MAITAIKHU,2MAI EK,3THO,3TRI,3CHATTAWA,2THANTHAKHAT,2NIKHAHIT,2YAMAKKAN,2FONGMAN,1DIGIT ZERO",
  "2ONE,2TWO,2THREE,2FOUR,2FIVE,2SIX,2SEVEN,2EIGHT,2NINE,1CHARACTER ANGKHANKHU,2KHOMUT,=E81",
  "LAO LETTER KO,2KHO SUNG,=E84,3TAM,=E86,2PALI GHA,2NGO,2CO,2PALI CHA,2SO TAM,=E8C,2PALI JHA",
  "2NYO,2PALI NYA,3TTA,3TTHA,3DDA,3DDHA,3NNA,2DO,2TO,2THO SUNG,3TAM,2PALI DHA,2NO,2BO,2PO",
  "2PHO SUNG,2FO TAM,2PHO TAM,2FO SUNG,2PALI BHA,2MO,2YO,2LO LING,=EA5,3LOOT,=EA7,2WO",
  "2SANSKRIT SHA,3SSA,2SO SUNG,2HO SUNG,2PALI LLA,2O,2HO TAM,1ELLIPSIS,1VOWEL SIGN A,3MAI KAN,3AA",
  "3AM,3I,3II,3Y,3YY,3U,3UU,1SIGN PALI VIRAMA,1VOWEL SIGN MAI KON,1SEMIVOWEL SIGN LO,3NYO,=EC0",
  "1VOWEL SIGN E,3EI,3O,3AY,3AI,=EC6,1KO LA,=EC8,1TONE MAI EK,3THO,3TI,3CATAWA,1CANCELLATION MARK",
  "1NIGGAHITA,=ED0,1DIGIT ZERO,2ONE,2TWO,2THREE,2FOUR,2FIVE,2SIX,2SEVEN,2EIGHT,2NINE,=EDC,1HO NO",
  "2MO,1LETTER KHMU GO,3NYO,=F00,TIBETAN SYLLABLE OM,1MARK GTER YIG MGO TRUNCATED A",
  "5-UM RNAM BCAD MA,6GTER TSHEG MA,2INITIAL YIG MGO MDUN MA,2CLOSING YIG MGO SGAB MA",
  "2CARET YIG MGO PHUR SHAD MA,2YIG MGO TSHEG SHAD MA,2SBRUL SHAD,2BSKUR YIG MGO",
  "2BKA- SHOG YIG MGO,2INTERSYLLABIC TSHEG,2DELIMITER TSHEG BSTAR,2SHAD,2NYIS SHAD,2TSHEG SHAD",
  "2NYIS TSHEG SHAD,2RIN CHEN SPUNGS SHAD,2RGYA GRAM SHAD,2CARET -DZUD RTAGS ME LONG CAN",
  "2GTER TSHEG,1LOGOTYPE SIGN CHAD RTAGS,3LHAG RTAGS,1ASTROLOGICAL SIGN SGRA GCAN -CHAR RTAGS",
  "3-KHYUD PA,3SDONG TSHUGS,1SIGN RDEL DKAR GCIG,4GNYIS,4GSUM,3NAG GCIG,4GNYIS,3DKAR RDEL NAG",
  "1DIGIT ZERO,2ONE,2TWO,2THREE,2FOUR,2FIVE,2SIX,2SEVEN,2EIGHT,2NINE,2HALF ONE,3TWO,3THREE,3FOUR",
  "3FIVE,3SIX,3SEVEN,3EIGHT,3NINE,3ZERO,1MARK BSDUS RTAGS,2NGAS BZUNG NYI ZLA",
  "2CARET -DZUD RTAGS BZHI MIG CAN,2NGAS BZUNG SGOR RTAGS,2CHE MGO,2TSA -PHRU,2GUG RTAGS GYON",
  "4GYAS,2ANG KHANG GYON,4GYAS,1SIGN YAR TSHES,2MAR TSHES,1LETTER KA,2KHA,2GA,2GHA,2NGA,2CA,2CHA",
  "2JA,=F49,2NYA,2TTA,2TTHA,2DDA,2DDHA,2NNA,2TA,2THA,2DA,2DHA,2NA,2PA,2PHA,2BA,2BHA,2MA,2TSA",
  "2TSHA,2DZA,2DZHA,2WA,2ZHA,2ZA,2-A,2YA,2RA,2LA,2SHA,2SSA,2SA,2HA,2A,2KSSA,2FIXED-FORM RA,2KKA",
  "2RRA,=F71,1VOWEL SIGN AA,3I,3II,3U,3UU,3VOCALIC R,4RR,4L,4LL,3E,3EE,3O,3OO",
  "1SIGN RJES SU NGA RO,2RNAM BCAD,1VOWEL SIGN REVERSED I,4II,1SIGN NYI ZLA NAA DA,2SNA LDAN",
  "1MARK HALANTA,2PALUTA,1SIGN LCI RTAGS,2YANG RTAGS,2LCE TSA CAN,2MCHU CAN,2GRU CAN RGYINGS",
  "3MED RGYINGS,2INVERTED MCHU CAN,1SUBJOINED SIGN LCE TSA CAN,3MCHU CAN,3INVERTED MCHU CAN",
  "2LETTER KA,3KHA,3GA,3GHA,3NGA,3CA,3CHA,3JA,=F99,3NYA,3TTA,3TTHA,3DDA,3DDHA,3NNA,3TA,3THA,3DA",
  "3DHA,3NA,3PA,3PHA,3BA,3BHA,3MA,3TSA,3TSHA,3DZA,3DZHA,3WA,3ZHA,3ZA,3-A,3YA,3RA,3LA,3SHA,3SSA",
  "3SA,3HA,3A,3KSSA,3FIXED-FORM WA,4YA,4RA,=FBE,1KU RU KHA,4BZHI MIG CAN",
  "1CANTILLATION SIGN HEAVY BEAT,3LIGHT BEAT,3CANG TE-U,3SBUB -CHAL,1SYMBOL DRIL BU,2RDO RJE",
  "2PADMA GDAN,2RDO RJE RGYA GRAM,2PHUR PA,2NOR BU,4NYIS -KHYIL,4GSUM -KHYIL,4BZHI -KHYIL,=FCE",
  "1SIGN RDEL NAG RDEL DKAR,4GSUM,1MARK BSKA- SHOG GI MGO RGYAN,2MNYAM YIG GI MGO RGYAN",
  "2NYIS TSHEG,2INITIAL BRDA RNYING YIG MGO MDUN MA,2CLOSING BRDA RNYING YIG MGO SGAB MA",
  "RIGHT-FACING SVASTI SIGN,LEFT-FACING SVASTI SIGN,RIGHT-FACING SVASTI SIGN WITH DOTS",
  "LEFT-FACING SVASTI SIGN WITH DOTS,TIBETAN MARK LEADING MCHAN RTAGS,2TRAILING MCHAN RTAGS,=1000",
  "MYANMAR LETTER KA,2KHA,2GA,2GHA,2NGA,2CA,2CHA,2JA,2JHA,2NYA,2NNYA,2TTA,2TTHA,2DDA,2DDHA,2NNA",
  "2TA,2THA,2DA,2DHA,2NA,2PA,2PHA,2BA,2BHA,2MA,2YA,2RA,2LA,2WA,2SA,2HA,2LLA,2A,2SHAN A,2I,2II,2U",
  "2UU,2E,2MON E,2O,2AU,1VOWEL SIGN TALL AA,3AA,3I,3II,3U,3UU,3E,3AI,3MON II,4O,3E ABOVE",
  "1SIGN ANUSVARA,2DOT BELOW,2VISARGA,2VIRAMA,2ASAT,1CONSONANT SIGN MEDIAL YA,4RA,4WA,4HA",
  "1LETTER GREAT SA,1DIGIT ZERO,2ONE,2TWO,2THREE,2FOUR,2FIVE,2SIX,2SEVEN,2EIGHT,2NINE",
  "1SIGN LITTLE SECTION,2SECTION,1SYMBOL LOCATIVE,2COMPLETED,2AFOREMENTIONED,2GENITIVE",
  "1LETTER SHA,2SSA,2VOCALIC R,3RR,3L,3LL,1VOWEL SIGN VOCALIC R,4RR,4L,4LL,1LETTER MON NGA,3JHA",
  "3BBA,3BBE,1CONSONANT SIGN MON MEDIAL NA,5MA,5LA,1LETTER SGAW KAREN SHA",
  "1VOWEL SIGN SGAW KAREN EU,1TONE MARK SGAW KAREN HATHI,5KE PHO,1LETTER WESTERN PWO KAREN THA",
  "5PWA,1VOWEL SIGN WESTERN PWO KAREN EU,6UE,1SIGN WESTERN PWO KAREN TONE-1,5TONE-2,5TONE-3",
  "5TONE-4,5TONE-5,1LETTER EASTERN PWO KAREN NNA,5YWA,5GHWA,1VOWEL SIGN GEBA KAREN I,3KAYAH OE,4U",
  "4EE,1LETTER SHAN KA,3KHA,3GA,3CA,3ZA,3NYA,3DA,3NA,3PHA,3FA,3BA,3THA,3HA",
  "1CONSONANT SIGN SHAN MEDIAL WA,1VOWEL SIGN SHAN AA,4E,5ABOVE,4FINAL Y,1SIGN SHAN TONE-2",
  "3TONE-3,3TONE-5,3TONE-6,3COUNCIL TONE-2,4TONE-3,4EMPHATIC TONE,1LETTER RUMAI PALAUNG FA",
  "1SIGN RUMAI PALAUNG TONE-5,1SHAN DIGIT ZERO,3ONE,3TWO,3THREE,3FOUR,3FIVE,3SIX,3SEVEN,3EIGHT",
  "3NINE,1SIGN KHAMTI TONE-1,3TONE-3,1VOWEL SIGN AITON A,4AI,1SYMBOL SHAN ONE,3EXCLAMATION",
  "GEORGIAN CAPITAL LETTER AN,3BAN,3GAN,3DON,3EN,3VIN,3ZEN,3TAN,3IN,3KAN,3LAS,3MAN,3NAR,3ON,3PAR",
  "3ZHAR,3RAE,3SAN,3TAR,3UN,3PHAR,3KHAR,3GHAN,3QAR,3SHIN,3CHIN,3CAN,3JIL,3CIL,3CHAR,3XAN,3JHAN",
  "3HAE,3HE,3HIE,3WE,3HAR,3HOE,=10C7,3YN,=10CD,3AEN,=10D0,1LETTER AN,2BAN,2GAN,2DON,2EN,2VIN,2ZEN",
  "2TAN,2IN,2KAN,2LAS,2MAN,2NAR,2ON,2PAR,2ZHAR,2RAE,2SAN,2TAR,2UN,2PHAR,2KHAR,2GHAN,2QAR,2SHIN",
  "2CHIN,2CAN,2JIL,2CIL,2CHAR,2XAN,2JHAN,2HAE,2HE,2HIE,2WE,2HAR,2HOE,2FI,2YN,2ELIFI,2TURNED GAN",
  "2AIN,1PARAGRAPH SEPARATOR,MODIFIER LETTER GEORGIAN NAR,GEORGIAN LETTER AEN,2HARD SIGN",
  "2LABIAL SIGN,HANGUL CHOSEONG KIYEOK,2SSANGKIYEOK,2NIEUN,2TIKEUT,2SSANGTIKEUT,2RIEUL,2MIEUM",
  "2PIEUP,2SSANGPIEUP,2SIOS,2SSANGSIOS,2IEUNG,2CIEUC,2SSANGCIEUC,2CHIEUCH,2KHIEUKH,2THIEUTH",
  "2PHIEUPH,2HIEUH,2NIEUN-KIYEOK,2SSANGNIEUN,2NIEUN-TIKEUT,2NIEUN-PIEUP,2TIKEUT-KIYEOK",
  "2RIEUL-NIEUN,2SSANGRIEUL,2RIEUL-HIEUH,2KAPYEOUNRIEUL,2MIEUM-PIEUP,2KAPYEOUNMIEUM,2PIEUP-KIYEOK",
  "2PIEUP-NIEUN,2PIEUP-TIKEUT,2PIEUP-SIOS,2PIEUP-SIOS-KIYEOK,2PIEUP-SIOS-TIKEUT,2PIEUP-SIOS-PIEUP",
  "2PIEUP-SSANGSIOS,2PIEUP-SIOS-CIEUC,2PIEUP-CIEUC,2PIEUP-CHIEUCH,2PIEUP-THIEUTH,2PIEUP-PHIEUPH",
  "2KAPYEOUNPIEUP,2KAPYEOUNSSANGPIEUP,2SIOS-KIYEOK,2SIOS-NIEUN,2SIOS-TIKEUT,2SIOS-RIEUL",
  "2SIOS-MIEUM,2SIOS-PIEUP,2SIOS-PIEUP-KIYEOK,2SIOS-SSANGSIOS,2SIOS-IEUNG,2SIOS-CIEUC",
  "2SIOS-CHIEUCH,2SIOS-KHIEUKH,2SIOS-THIEUTH,2SIOS-PHIEUPH,2SIOS-HIEUH,2CHITUEUMSIOS",
  "2CHITUEUMSSANGSIOS,2CEONGCHIEUMSIOS,2CEONGCHIEUMSSANGSIOS,2PANSIOS,2IEUNG-KIYEOK,2IEUNG-TIKEUT",
  "2IEUNG-MIEUM,2IEUNG-PIEUP,2IEUNG-SIOS,2IEUNG-PANSIOS,2SSANGIEUNG,2IEUNG-CIEUC,2IEUNG-CHIEUCH",
  "2IEUNG-THIEUTH,2IEUNG-PHIEUPH,2YESIEUNG,2CIEUC-IEUNG,2CHITUEUMCIEUC,2CHITUEUMSSANGCIEUC",
  "2CEONGCHIEUMCIEUC,2CEONGCHIEUMSSANGCIEUC,2CHIEUCH-KHIEUKH,2CHIEUCH-HIEUH,2CHITUEUMCHIEUCH",
  "2CEONGCHIEUMCHIEUCH,2PHIEUPH-PIEUP,2KAPYEOUNPHIEUPH,2SSANGHIEUH,2YEORINHIEUH,2KIYEOK-TIKEUT",
  "2NIEUN-SIOS,2NIEUN-CIEUC,2NIEUN-HIEUH,2TIKEUT-RIEUL,2FILLER,1JUNGSEONG FILLER,2A,2AE,2YA,2YAE",
  "2EO,2E,2YEO,2YE,2O,2WA,2WAE,2OE,2YO,2U,2WEO,2WE,2WI,2YU,2EU,2YI,2I,2A-O,2A-U,2YA-O,2YA-YO",
  "2EO-O,2EO-U,2EO-EU,2YEO-O,2YEO-U,2O-EO,2O-E,2O-YE,2O-O,2O-U,2YO-YA,2YO-YAE,2YO-YEO,2YO-O,2YO-I",
  "2U-A,2U-AE,2U-EO-EU,2U-YE,2U-U,2YU-A,2YU-EO,2YU-E,2YU-YEO,2YU-YE,2YU-U,2YU-I,2EU-U,2EU-EU",
  "2YI-U,2I-A,2I-YA,2I-O,2I-U,2I-EU,2I-ARAEA,2ARAEA,2ARAEA-EO,2ARAEA-U,2ARAEA-I,2SSANGARAEA,2A-EU",
  "2YA-U,2YEO-YA,2O-YA,2O-YAE,1JONGSEONG KIYEOK,2SSANGKIYEOK,2KIYEOK-SIOS,2NIEUN,2NIEUN-CIEUC",
  "2NIEUN-HIEUH,2TIKEUT,2RIEUL,2RIEUL-KIYEOK,2RIEUL-MIEUM,2RIEUL-PIEUP,2RIEUL-SIOS,2RIEUL-THIEUTH",
  "2RIEUL-PHIEUPH,2RIEUL-HIEUH,2MIEUM,2PIEUP,2PIEUP-SIOS,2SIOS,2SSANGSIOS,2IEUNG,2CIEUC,2CHIEUCH",
  "2KHIEUKH,2THIEUTH,2PHIEUPH,2HIEUH,2KIYEOK-RIEUL,2KIYEOK-SIOS-KIYEOK,2NIEUN-KIYEOK",
  "2NIEUN-TIKEUT,2NIEUN-SIOS,2NIEUN-PANSIOS,2NIEUN-THIEUTH,2TIKEUT-KIYEOK,2TIKEUT-RIEUL",
  "2RIEUL-KIYEOK-SIOS,2RIEUL-NIEUN,2RIEUL-TIKEUT,2RIEUL-TIKEUT-HIEUH,2SSANGRIEUL",
  "2RIEUL-MIEUM-KIYEOK,2RIEUL-MIEUM-SIOS,2RIEUL-PIEUP-SIOS,2RIEUL-PIEUP-HIEUH",
  "2RIEUL-KAPYEOUNPIEUP,2RIEUL-SSANGSIOS,2RIEUL-PANSIOS,2RIEUL-KHIEUKH,2RIEUL-YEORINHIEUH",
  "2MIEUM-KIYEOK,2MIEUM-RIEUL,2MIEUM-PIEUP,2MIEUM-SIOS,2MIEUM-SSANGSIOS,2MIEUM-PANSIOS",
  "2MIEUM-CHIEUCH,2MIEUM-HIEUH,2KAPYEOUNMIEUM,2PIEUP-RIEUL,2PIEUP-PHIEUPH,2PIEUP-HIEUH",
  "2KAPYEOUNPIEUP,2SIOS-KIYEOK,2SIOS-TIKEUT,2SIOS-RIEUL,2SIOS-PIEUP,2PANSIOS,2IEUNG-KIYEOK",
  "2IEUNG-SSANGKIYEOK,2SSANGIEUNG,2IEUNG-KHIEUKH,2YESIEUNG,2YESIEUNG-SIOS,2YESIEUNG-PANSIOS",
  "2PHIEUPH-PIEUP,2KAPYEOUNPHIEUPH,2HIEUH-NIEUN,2HIEUH-RIEUL,2HIEUH-MIEUM,2HIEUH-PIEUP",
  "2YEORINHIEUH,2KIYEOK-NIEUN,2KIYEOK-PIEUP,2KIYEOK-CHIEUCH,2KIYEOK-KHIEUKH,2KIYEOK-HIEUH",
  "2SSANGNIEUN,ETHIOPIC SYLLABLE HA,2HU,2HI,2HAA,2HEE,2HE,2HO,2HOA,2LA,2LU,2LI,2LAA,2LEE,2LE,2LO",
  "2LWA,2HHA,2HHU,2HHI,2HHAA,2HHEE,2HHE,2HHO,2HHWA,2MA,2MU,2MI,2MAA,2MEE,2ME,2MO,2MWA,2SZA,2SZU",
  "2SZI,2SZAA,2SZEE,2SZE,2SZO,2SZWA,2RA,2RU,2RI,2RAA,2REE,2RE,2RO,2RWA,2SA,2SU,2SI,2SAA,2SEE,2SE",
  "2SO,2SWA,2SHA,2SHU,2SHI,2SHAA,2SHEE,2SHE,2SHO,2SHWA,2QA,2QU,2QI,2QAA,2QEE,2QE,2QO,2QOA,2QWA",
  "=124A,2QWI,2QWAA,2QWEE,2QWE,=1250,2QHA,2QHU,2QHI,2QHAA,2QHEE,2QHE,2QHO,=1258,2QHWA,=125A,2QHWI",
  "2QHWAA,2QHWEE,2QHWE,=1260,2BA,2BU,2BI,2BAA,2BEE,2BE,2BO,2BWA,2VA,2VU,2VI,2VAA,2VEE,2VE,2VO",
  "2VWA,2TA,2TU,2TI,2TAA,2TEE,2TE,2TO,2TWA,2CA,2CU,2CI,2CAA,2CEE,2CE,2CO,2CWA,2XA,2XU,2XI,2XAA",
  "2XEE,2XE,2XO,2XOA,2XWA,=128A,2XWI,2XWAA,2XWEE,2XWE,=1290,2NA,2NU,2NI,2NAA,2NEE,2NE,2NO,2NWA",
  "2NYA,2NYU,2NYI,2NYAA,2NYEE,2NYE,2NYO,2NYWA,2GLOTTAL A,3U,3I,3AA,3EE,3E,3O,3WA,2KA,2KU,2KI,2KAA",
  "2KEE,2KE,2KO,2KOA,2KWA,=12B2,2KWI,2KWAA,2KWEE,2KWE,=12B8,2KXA,2KXU,2KXI,2KXAA,2KXEE,2KXE,2KXO",
  "=12C0,2KXWA,=12C2,2KXWI,2KXWAA,2KXWEE,2KXWE,=12C8,2WA,2WU,2WI,2WAA,2WEE,2WE,2WO,2WOA",
  "2PHARYNGEAL A,3U,3I,3AA,3EE,3E,3O,=12D8,2ZA,2ZU,2ZI,2ZAA,2ZEE,2ZE,2ZO,2ZWA,2ZHA,2ZHU,2ZHI",
  "2ZHAA,2ZHEE,2ZHE,2ZHO,2ZHWA,2YA,2YU,2YI,2YAA,2YEE,2YE,2YO,2YOA,2DA,2DU,2DI,2DAA,2DEE,2DE,2DO",
  "2DWA,2DDA,2DDU,2DDI,2DDAA,2DDEE,2DDE,2DDO,2DDWA,2JA,2JU,2JI,2JAA,2JEE,2JE,2JO,2JWA,2GA,2GU,2GI",
  "2GAA,2GEE,2GE,2GO,2GOA,2GWA,=1312,2GWI,2GWAA,2GWEE,2GWE,=1318,2GGA,2GGU,2GGI,2GGAA,2GGEE,2GGE",
  "2GGO,2GGWAA,2THA,2THU,2THI,2THAA,2THEE,2THE,2THO,2THWA,2CHA,2CHU,2CHI,2CHAA,2CHEE,2CHE,2CHO",
  "2CHWA,2PHA,2PHU,2PHI,2PHAA,2PHEE,2PHE,2PHO,2PHWA,2TSA,2TSU,2TSI,2TSAA,2TSEE,2TSE,2TSO,2TSWA",
  "2TZA,2TZU,2TZI,2TZAA,2TZEE,2TZE,2TZO,2TZOA,2FA,2FU,2FI,2FAA,2FEE,2FE,2FO,2FWA,2PA,2PU,2PI,2PAA",
  "2PEE,2PE,2PO,2PWA,2RYA,2MYA,2FYA,=135D,1COMBINING GEMINATION AND VOWEL LENGTH MARK",
  "2VOWEL LENGTH MARK,2GEMINATION MARK,1SECTION MARK,1WORDSPACE,1FULL STOP,1COMMA,1SEMICOLON",
  "1COLON,1PREFACE COLON,1QUESTION MARK,1PARAGRAPH SEPARATOR,1DIGIT ONE,2TWO,2THREE,2FOUR,2FIVE",
  "2SIX,2SEVEN,2EIGHT,2NINE,1NUMBER TEN,2TWENTY,2THIRTY,2FORTY,2FIFTY,2SIXTY,2SEVENTY,2EIGHTY",
  "2NINETY,2HUNDRED,2TEN THOUSAND,=1380,1SYLLABLE SEBATBEIT MWA,2MWI,2MWEE,2MWE,2SEBATBEIT BWA",
  "2BWI,2BWEE,2BWE,2SEBATBEIT FWA,2FWI,2FWEE,2FWE,2SEBATBEIT PWA,2PWI,2PWEE,2PWE",
  "1TONAL MARK YIZET,3DERET,3RIKRIK,3SHORT RIKRIK,3DIFAT,3KENAT,3CHIRET,3HIDET,3DERET-HIDET,3KURT"]

end TemplateWorkbench.Unicode
