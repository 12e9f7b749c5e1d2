namespace Dialect.Text.CharName

-- Characters below 2000: the alphabets and syllabaries of living languages.
def letters : String := "
  0020 0SPACE;0EXCLAMATION MARK;0QUOTATION MARK;0NUMBER i;0DOLLAR i;0PERCENT i;0AMPERSAND
  0027 0APOSTROPHE;0t PARENTHESIS;0r PARENTHESIS;0ASTERISK;0PLUS i;0COMMA;0HYPHEN-MINUS;0FULL STOP
  002F 0SOLIDUS;0DIGIT ZERO;1ONE;1TWO;1m;1FOUR;1FIVE;1SIX;1SEVEN;1EIGHT;1NINE;0COLON;0SEMICOLON
  003C 0LESS-THAN i;0EQUALS i;0GREATER-THAN i;0QUESTION MARK;0COMMERCIAL AT;0LATIN c l A;3B;3C;3D
  0045 3E;3F;3G;3H;3I;3J;3K;3L;3M;3N;3O;3P;3Q;3R;3S;3T;3U;3V;3W;3X;3Y;3Z;0t SQUARE BRACKET
  005C 0REVERSE SOLIDUS;0r SQUARE BRACKET;0CIRCUMFLEX ACCENT;0LOW LINE;0GRAVE ACCENT;0LATIN s l A
  0062 3B;3C;3D;3E;3F;3G;3H;3I;3J;3K;3L;3M;3N;3O;3P;3Q;3R;3S;3T;3U;3V;3W;3X;3Y;3Z;0t CURLY BRACKET
  007C 0v LINE;0r CURLY BRACKET;0TILDE
  00A0 0NO-BREAK SPACE;0INVERTED EXCLAMATION MARK;0CENT i;0POUND i;0CURRENCY i;0YEN i;0BROKEN BAR
  00A7 0SECTION i;0DIAERESIS;0COPYRIGHT i;0FEMININE ORDINAL INDICATOR
  00AB 0LEFT-POINTING d ANGLE QUOTATION MARK;0NOT i;0SOFT HYPHEN;0REGISTERED i;0MACRON;0DEGREE i
  00B1 0PLUS-MINUS i;0SUPERSCRIPT TWO;1m;0ACUTE ACCENT;0MICRO i;0PILCROW i;0MIDDLE DOT;0CEDILLA
  00B9 0SUPERSCRIPT ONE;0MASCULINE ORDINAL INDICATOR;0RIGHT-POINTING d ANGLE QUOTATION MARK
  00BC 0VULGAR FRACTION ONE QUARTER;3HALF;2m QUARTERS;0INVERTED QUESTION MARK;0LATIN c l A w GRAVE
  00C1 5ACUTE;5CIRCUMFLEX;5TILDE;5DIAERESIS;5RING b;3AE;3C w CEDILLA;3E w GRAVE;5ACUTE;5CIRCUMFLEX
  00CB 5DIAERESIS;3I w GRAVE;5ACUTE;5CIRCUMFLEX;5DIAERESIS;3ETH;3N w TILDE;3O w GRAVE;5ACUTE
  00D4 5CIRCUMFLEX;5TILDE;5DIAERESIS;0MULTIPLICATION i;0LATIN c l O w q;3U w GRAVE;5ACUTE
  00DB 5CIRCUMFLEX;5DIAERESIS;3Y w ACUTE;3THORN;1s l SHARP S;3A w GRAVE;5ACUTE;5CIRCUMFLEX;5TILDE
  00E4 5DIAERESIS;5RING b;3AE;3C w CEDILLA;3E w GRAVE;5ACUTE;5CIRCUMFLEX;5DIAERESIS;3I w GRAVE
  00ED 5ACUTE;5CIRCUMFLEX;5DIAERESIS;3ETH;3N w TILDE;3O w GRAVE;5ACUTE;5CIRCUMFLEX;5TILDE
  00F6 5DIAERESIS;0DIVISION i;0LATIN s l O w q;3U w GRAVE;5ACUTE;5CIRCUMFLEX;5DIAERESIS;3Y w ACUTE
  00FE 3THORN;3Y w DIAERESIS;1c l A w MACRON;1s l A w MACRON;1c l A w BREVE;1s l A w BREVE
  0104 1c l A w OGONEK;1s l A w OGONEK;1c l C w ACUTE;1s l C w ACUTE;1c l C w CIRCUMFLEX
  0109 1s l C w CIRCUMFLEX;1c l C w DOT b;1s l C w DOT b;1c l C w CARON;1s l C w CARON
  010E 1c l D w CARON;1s l D w CARON;1c l D w q;1s l D w q;1c l E w MACRON;1s l E w MACRON
  0114 1c l E w BREVE;1s l E w BREVE;1c l E w DOT b;1s l E w DOT b;1c l E w OGONEK;1s l E w OGONEK
  011A 1c l E w CARON;1s l E w CARON;1c l G w CIRCUMFLEX;1s l G w CIRCUMFLEX;1c l G w BREVE
  011F 1s l G w BREVE;1c l G w DOT b;1s l G w DOT b;1c l G w CEDILLA;1s l G w CEDILLA
  0124 1c l H w CIRCUMFLEX;1s l H w CIRCUMFLEX;1c l H w q;1s l H w q;1c l I w TILDE;1s l I w TILDE
  012A 1c l I w MACRON;1s l I w MACRON;1c l I w BREVE;1s l I w BREVE;1c l I w OGONEK
  012F 1s l I w OGONEK;1c l I w DOT b;1s l DOTLESS I;1c LIGATURE IJ;1s LIGATURE IJ
  0134 1c l J w CIRCUMFLEX;1s l J w CIRCUMFLEX;1c l K w CEDILLA;1s l K w CEDILLA;3KRA
  0139 1c l L w ACUTE;1s l L w ACUTE;1c l L w CEDILLA;1s l L w CEDILLA;1c l L w CARON
  013E 1s l L w CARON;1c l L w MIDDLE DOT;1s l L w MIDDLE DOT;1c l L w q;1s l L w q;1c l N w ACUTE
  0144 1s l N w ACUTE;1c l N w CEDILLA;1s l N w CEDILLA;1c l N w CARON;1s l N w CARON
  0149 4PRECEDED BY APOSTROPHE;1c l ENG;1s l ENG;1c l O w MACRON;1s l O w MACRON;1c l O w BREVE
  014F 1s l O w BREVE;1c l O w d ACUTE;1s l O w d ACUTE;1c LIGATURE OE;1s LIGATURE OE
  0154 1c l R w ACUTE;1s l R w ACUTE;1c l R w CEDILLA;1s l R w CEDILLA;1c l R w CARON
  0159 1s l R w CARON;1c l S w ACUTE;1s l S w ACUTE;1c l S w CIRCUMFLEX;1s l S w CIRCUMFLEX
  015E 1c l S w CEDILLA;1s l S w CEDILLA;1c l S w CARON;1s l S w CARON;1c l T w CEDILLA
  0163 1s l T w CEDILLA;1c l T w CARON;1s l T w CARON;1c l T w q;1s l T w q;1c l U w TILDE
  0169 1s l U w TILDE;1c l U w MACRON;1s l U w MACRON;1c l U w BREVE;1s l U w BREVE
  016E 1c l U w RING b;1s l U w RING b;1c l U w d ACUTE;1s l U w d ACUTE;1c l U w OGONEK
  0173 1s l U w OGONEK;1c l W w CIRCUMFLEX;1s l W w CIRCUMFLEX;1c l Y w CIRCUMFLEX
  0177 1s l Y w CIRCUMFLEX;1c l Y w DIAERESIS;3Z w ACUTE;1s l Z w ACUTE;1c l Z w DOT b
  017C 1s l Z w DOT b;1c l Z w CARON;1s l Z w CARON;3LONG S;3B w q;1c l B w HOOK;5TOPBAR
  0183 1s l B w TOPBAR;1c l TONE SIX;1s l TONE SIX;1c l OPEN O;3C w HOOK;1s l C w HOOK
  0189 1c l AFRICAN D;3D w HOOK;5TOPBAR;1s l D w TOPBAR;3TURNED DELTA;1c l REVERSED E;3SCHWA
  0190 3OPEN E;3F w HOOK;1s l F w HOOK;1c l G w HOOK;3GAMMA;1s l HV;1c l IOTA;3I w q;3K w HOOK
  0199 1s l K w HOOK;3L w BAR;3LAMBDA w q;1c l TURNED M;3N w t HOOK;1s l N w LONG r LEG
  019F 1c l O w MIDDLE TILDE;5HORN;1s l O w HORN;1c l OI;1s l OI;1c l P w HOOK;1s l P w HOOK;1l YR
  01A7 1c l TONE TWO;1s l TONE TWO;1c l ESH;1l REVERSED ESH LOOP;1s l T w PALATAL HOOK
  01AC 1c l T w HOOK;1s l T w HOOK;1c l T w RETROFLEX HOOK;3U w HORN;1s l U w HORN;1c l UPSILON
  01B2 3V w HOOK;3Y w HOOK;1s l Y w HOOK;1c l Z w q;1s l Z w q;1c l EZH;4REVERSED
  01B9 1s l EZH REVERSED;4w TAIL;1l TWO w q;1c l TONE FIVE;1s l TONE FIVE
  01BE 1l INVERTED GLOTTAL STOP w q;2WYNN;2DENTAL CLICK;2LATERAL CLICK;2ALVEOLAR CLICK
  01C3 2RETROFLEX CLICK;1c l DZ w CARON;3D w s l Z w CARON;1s l DZ w CARON;1c l LJ;3L w s l J
  01C9 1s l LJ;1c l NJ;3N w s l J;1s l NJ;1c l A w CARON;1s l A w CARON;1c l I w CARON
  01D0 1s l I w CARON;1c l O w CARON;1s l O w CARON;1c l U w CARON;1s l U w CARON
  01D5 1c l U w DIAERESIS h MACRON;1s l U w DIAERESIS h MACRON;1c l U w DIAERESIS h ACUTE
  01D8 1s l U w DIAERESIS h ACUTE;1c l U w DIAERESIS h CARON;1s l U w DIAERESIS h CARON
  01DB 1c l U w DIAERESIS h GRAVE;1s l U w DIAERESIS h GRAVE;3TURNED E;1c l A w DIAERESIS h MACRON
  01DF 1s l A w DIAERESIS h MACRON;1c l A w DOT b h MACRON;1s l A w DOT b h MACRON
  01E2 1c l AE w MACRON;1s l AE w MACRON;1c l G w q;1s l G w q;1c l G w CARON;1s l G w CARON
  01E8 1c l K w CARON;1s l K w CARON;1c l O w OGONEK;1s l O w OGONEK;1c l O w OGONEK h MACRON
  01ED 1s l O w OGONEK h MACRON;1c l EZH w CARON;1s l EZH w CARON;3J w CARON;1c l DZ;3D w s l Z
  01F3 1s l DZ;1c l G w ACUTE;1s l G w ACUTE;1c l HWAIR;3WYNN;3N w GRAVE;1s l N w GRAVE
  01FA 1c l A w RING b h ACUTE;1s l A w RING b h ACUTE;1c l AE w ACUTE;1s l AE w ACUTE
  01FE 1c l O w q h ACUTE;1s l O w q h ACUTE;1c l A w d GRAVE;1s l A w d GRAVE
  0202 1c l A w INVERTED BREVE;1s l A w INVERTED BREVE;1c l E w d GRAVE;1s l E w d GRAVE
  0206 1c l E w INVERTED BREVE;1s l E w INVERTED BREVE;1c l I w d GRAVE;1s l I w d GRAVE
  020A 1c l I w INVERTED BREVE;1s l I w INVERTED BREVE;1c l O w d GRAVE;1s l O w d GRAVE
  020E 1c l O w INVERTED BREVE;1s l O w INVERTED BREVE;1c l R w d GRAVE;1s l R w d GRAVE
  0212 1c l R w INVERTED BREVE;1s l R w INVERTED BREVE;1c l U w d GRAVE;1s l U w d GRAVE
  0216 1c l U w INVERTED BREVE;1s l U w INVERTED BREVE;1c l S w COMMA e;1s l S w COMMA e
  021A 1c l T w COMMA e;1s l T w COMMA e;1c l YOGH;1s l YOGH;1c l H w CARON;1s l H w CARON
  0220 1c l N w LONG r LEG;1s l D w CURL;1c l OU;1s l OU;1c l Z w HOOK;1s l Z w HOOK
  0226 1c l A w DOT b;1s l A w DOT b;1c l E w CEDILLA;1s l E w CEDILLA;1c l O w DIAERESIS h MACRON
  022B 1s l O w DIAERESIS h MACRON;1c l O w TILDE h MACRON;1s l O w TILDE h MACRON;1c l O w DOT b
  022F 1s l O w DOT b;1c l O w DOT b h MACRON;1s l O w DOT b h MACRON;1c l Y w MACRON
  0233 1s l Y w MACRON;3L w CURL;3N w CURL;3T w CURL;3DOTLESS J;3DB DIGRAPH;3QP DIGRAPH;1c l A w q
  023B 3C w q;1s l C w q;1c l L w BAR;3T w DIAGONAL q;1s l S w SWASH TAIL;3Z w SWASH TAIL
  0241 1c l GLOTTAL STOP;1s l GLOTTAL STOP;1c l B w q;3U BAR;3TURNED V;3E w q;1s l E w q
  0248 1c l J w q;1s l J w q;1c l s Q w HOOK TAIL;1s l Q w HOOK TAIL;1c l R w q;1s l R w q
  024E 1c l Y w q;1s l Y w q;3TURNED A;3ALPHA;3TURNED ALPHA;3B w HOOK;3OPEN O;3C w CURL;3D w TAIL
  0257 5HOOK;3REVERSED E;3SCHWA;4w HOOK;3OPEN E;3REVERSED OPEN E;6w HOOK;3CLOSED REVERSED OPEN E
  025F 3DOTLESS J w q;3G w HOOK;3SCRIPT G;1l s c G;1s l GAMMA;3RAMS HORN;3TURNED H;3H w HOOK
  0267 3HENG w HOOK;3I w q;3IOTA;1l s c I;1s l L w MIDDLE TILDE;5BELT;5RETROFLEX HOOK;3LEZH
  026F 3TURNED M;5w LONG LEG;3M w HOOK;3N w t HOOK;5RETROFLEX HOOK;1l s c N;1s l BARRED O
  0276 1l s c OE;1s l CLOSED OMEGA;3PHI;3TURNED R;5w LONG LEG;6HOOK;3R w LONG LEG;5TAIL;5FISHHOOK
  027F 3REVERSED R w FISHHOOK;1l s c R;4INVERTED R;1s l S w HOOK;3ESH;3DOTLESS J w q h HOOK
  0285 3SQUAT REVERSED ESH;3ESH w CURL;3TURNED T;3T w RETROFLEX HOOK;3U BAR;3UPSILON;3V w HOOK
  028C 3TURNED V;4W;4Y;1l s c Y;1s l Z w RETROFLEX HOOK;5CURL;3EZH;4w CURL;1l GLOTTAL STOP
  0295 2PHARYNGEAL VOICED FRICATIVE;2INVERTED GLOTTAL STOP;2STRETCHED C;2BILABIAL CLICK;2s c B
  029A 1s l CLOSED OPEN E;1l s c G w HOOK;4H;1s l J w CROSSED-TAIL;3TURNED K;1l s c L
  02A0 1s l Q w HOOK;1l GLOTTAL STOP w q;2REVERSED GLOTTAL STOP w q;1s l DZ DIGRAPH;3DEZH DIGRAPH
  02A5 3DZ DIGRAPH w CURL;3TS DIGRAPH;3TESH DIGRAPH;3TC DIGRAPH w CURL;3FENG DIGRAPH;3LS DIGRAPH
  02AB 3LZ DIGRAPH;1l BILABIAL PERCUSSIVE;2BIDENTAL PERCUSSIVE;1s l TURNED H w FISHHOOK;7h TAIL
  02B0 0MODIFIER l s H;4w HOOK;3J;3R;3TURNED R;5w HOOK;3c INVERTED R;3W;3Y;2PRIME;2d PRIME
  02BB 2TURNED COMMA;2APOSTROPHE;2REVERSED COMMA;2r HALF RING;2t HALF RING;2GLOTTAL STOP
  02C1 2REVERSED GLOTTAL STOP;2t ARROWHEAD;2r ARROWHEAD;2UP ARROWHEAD;2DOWN ARROWHEAD
  02C6 2CIRCUMFLEX ACCENT;0CARON;0MODIFIER l v LINE;2MACRON;2ACUTE ACCENT;2GRAVE ACCENT
  02CC 2LOW v LINE;3MACRON;3GRAVE ACCENT;3ACUTE ACCENT;2TRIANGULAR COLON;2HALF TRIANGULAR COLON
  02D2 2CENTRED r HALF RING;3t HALF RING;2UP TACK;2DOWN TACK;2PLUS i;2MINUS i;0BREVE;0DOT b
  02DA 0RING b;0OGONEK;0s TILDE;0d ACUTE ACCENT;0MODIFIER l RHOTIC HOOK;2CROSS ACCENT;2s GAMMA;3L
  02E2 3S;3X;3REVERSED GLOTTAL STOP;2EXTRA-HIGH TONE BAR;2HIGH TONE BAR;2MID TONE BAR
  02E8 2LOW TONE BAR;2EXTRA-LOW TONE BAR;2YIN DEPARTING TONE MARK;2YANG DEPARTING TONE MARK
  02EC 2VOICING;2UNASPIRATED;2d APOSTROPHE;2LOW DOWN ARROWHEAD;3UP ARROWHEAD;3t ARROWHEAD
  02F2 3r ARROWHEAD;3RING;2MIDDLE GRAVE ACCENT;3d GRAVE ACCENT;4ACUTE ACCENT;2LOW TILDE
  02F8 2RAISED COLON;2BEGIN HIGH TONE;2END HIGH TONE;2BEGIN LOW TONE;2END LOW TONE;2SHELF
  02FE 2OPEN SHELF;2LOW t a;0COMBINING GRAVE ACCENT;1ACUTE ACCENT;1CIRCUMFLEX ACCENT;1TILDE
  0304 1MACRON;1OVERLINE;1BREVE;1DOT b;1DIAERESIS;1HOOK b;1RING b;1d ACUTE ACCENT;1CARON;1v LINE b
  030E 1d v LINE b;2GRAVE ACCENT;1CANDRABINDU;1INVERTED BREVE;1TURNED COMMA b;1COMMA b
  0314 1REVERSED COMMA b;1COMMA b r;1GRAVE ACCENT e;1ACUTE ACCENT e;1t TACK e;1r TACK e;1t ANGLE b
  031B 1HORN;1t HALF RING e;1UP TACK e;1DOWN TACK e;1PLUS i e;1MINUS i e;1PALATALIZED HOOK e
  0322 1RETROFLEX HOOK e;1DOT e;1DIAERESIS e;1RING e;1COMMA e;1CEDILLA;1OGONEK;1v LINE e;1BRIDGE e
  032B 1INVERTED d ARCH e;1CARON e;1CIRCUMFLEX ACCENT e;1BREVE e;1INVERTED BREVE e;1TILDE e
  0331 1MACRON e;1LOW LINE;1d LOW LINE;1TILDE OVERLAY;1SHORT q OVERLAY;1LONG q OVERLAY
  0337 1SHORT SOLIDUS OVERLAY;1LONG SOLIDUS OVERLAY;1r HALF RING e;1INVERTED BRIDGE e;1SQUARE e
  033C 1SEAGULL e;1X b;1v TILDE;1d OVERLINE;1GRAVE TONE MARK;1ACUTE TONE MARK;1GREEK PERISPOMENI
  0343 2KORONIS;2DIALYTIKA TONOS;2YPOGEGRAMMENI;1BRIDGE b;1EQUALS i e;1d v LINE e;1t ANGLE e
  034A 1NOT TILDE b;1HOMOTHETIC b;1ALMOST EQUAL TO b;1t r a e;1UPWARDS a e;1GRAPHEME JOINER
  0350 1r ARROWHEAD b;1t HALF RING b;1FERMATA;1X e;1t ARROWHEAD e;1r ARROWHEAD e;3h UP ARROWHEAD e
  0357 2HALF RING b;1DOT b r;1ASTERISK e;1d RING e;1ZIGZAG b;1d BREVE e;3;2MACRON;3e;2TILDE
  0361 2INVERTED BREVE;2g a e;1LATIN s l A;4E;4I;4O;4U;4C;4D;4H;4M;4R;4T;4V;4X;0GREEK c l HETA
  0371 1s l HETA;1c l ARCHAIC SAMPI;1s l ARCHAIC SAMPI;1NUMERAL i;1LOWER NUMERAL i
  0376 1c l PAMPHYLIAN DIGAMMA;1s l PAMPHYLIAN DIGAMMA
  037A 1YPOGEGRAMMENI;1s REVERSED LUNATE SIGMA y;2DOTTED LUNATE SIGMA y
  037D 2REVERSED DOTTED LUNATE SIGMA y;1QUESTION MARK;1c l YOT
  0384 1TONOS;1DIALYTIKA TONOS;1c l ALPHA w TONOS;1ANO TELEIA;1c l EPSILON w TONOS;3ETA w TONOS
  038A 3IOTA w TONOS
  038C 3OMICRON w TONOS
  038E 3UPSILON w TONOS;3OMEGA w TONOS;1s l IOTA w DIALYTIKA h TONOS;1c l ALPHA;3BETA;3GAMMA
  0394 3DELTA;3EPSILON;3ZETA;3ETA;3THETA;3IOTA;3KAPPA;3LAMDA;3MU;3NU;3XI;3OMICRON;3PI;3RHO
  03A3 3SIGMA;3TAU;3UPSILON;3PHI;3CHI;3PSI;3OMEGA;3IOTA w DIALYTIKA;3UPSILON w DIALYTIKA
  03AC 1s l ALPHA w TONOS;3EPSILON w TONOS;3ETA w TONOS;3IOTA w TONOS;3UPSILON w DIALYTIKA h TONOS
  03B1 3ALPHA;3BETA;3GAMMA;3DELTA;3EPSILON;3ZETA;3ETA;3THETA;3IOTA;3KAPPA;3LAMDA;3MU;3NU;3XI
  03BF 3OMICRON;3PI;3RHO;3n SIGMA;3SIGMA;3TAU;3UPSILON;3PHI;3CHI;3PSI;3OMEGA;3IOTA w DIALYTIKA
  03CB 3UPSILON w DIALYTIKA;3OMICRON w TONOS;3UPSILON w TONOS;3OMEGA w TONOS;1c KAI y;1BETA y
  03D1 1THETA y;1UPSILON w HOOK y;3ACUTE h HOOK y;3DIAERESIS h HOOK y;1PHI y;1PI y;1KAI y
  03D8 1l ARCHAIC KOPPA;1s l ARCHAIC KOPPA;1l STIGMA;1s l STIGMA;1l DIGAMMA;1s l DIGAMMA;1l KOPPA
  03DF 1s l KOPPA;1l SAMPI;1s l SAMPI;0COPTIC c l SHEI;1s l SHEI;1c l FEI;1s l FEI;1c l KHEI
  03E7 1s l KHEI;1c l HORI;1s l HORI;1c l GANGIA;1s l GANGIA;1c l SHIMA;1s l SHIMA;1c l DEI
  03EF 1s l DEI;0GREEK KAPPA y;1RHO y;1LUNATE SIGMA y;1l YOT;1c THETA y;1LUNATE EPSILON y
  03F6 1REVERSED LUNATE EPSILON y;1c l SHO;1s l SHO;1c LUNATE SIGMA y;2l SAN;1s l SAN;1RHO w q y
  03FD 1c REVERSED LUNATE SIGMA y;2DOTTED LUNATE SIGMA y;2REVERSED DOTTED LUNATE SIGMA y
  0400 0CYRILLIC c l IE w GRAVE;3IO;3DJE;3GJE;3UKRAINIAN IE;3DZE;3BYELORUSSIAN-UKRAINIAN I;3YI;3JE
  0409 3LJE;3NJE;3TSHE;3KJE;3I w GRAVE;3SHORT U;3DZHE;3A;3BE;3VE;3GHE;3DE;3IE;3ZHE;3ZE;3I;3SHORT I
  041A 3KA;3EL;3EM;3EN;3O;3PE;3ER;3ES;3TE;3U;3EF;3HA;3TSE;3CHE;3SHA;3SHCHA;3HARD i;3YERU;3SOFT i
  042D 3E;3YU;3YA;1s l A;3BE;3VE;3GHE;3DE;3IE;3ZHE;3ZE;3I;3SHORT I;3KA;3EL;3EM;3EN;3O;3PE;3ER;3ES
  0442 3TE;3U;3EF;3HA;3TSE;3CHE;3SHA;3SHCHA;3HARD i;3YERU;3SOFT i;3E;3YU;3YA;3IE w GRAVE;3IO;3DJE
  0453 3GJE;3UKRAINIAN IE;3DZE;3BYELORUSSIAN-UKRAINIAN I;3YI;3JE;3LJE;3NJE;3TSHE;3KJE;3I w GRAVE
  045E 3SHORT U;3DZHE;1c l OMEGA;1s l OMEGA;1c l YAT;1s l YAT;1c l IOTIFIED E;1s l IOTIFIED E
  0466 1c l LITTLE YUS;1s l LITTLE YUS;1c l IOTIFIED LITTLE YUS;1s l IOTIFIED LITTLE YUS
  046A 1c l BIG YUS;1s l BIG YUS;1c l IOTIFIED BIG YUS;1s l IOTIFIED BIG YUS;1c l KSI;1s l KSI
  0470 1c l PSI;1s l PSI;1c l FITA;1s l FITA;1c l IZHITSA;1s l IZHITSA
  0476 1c l IZHITSA w d GRAVE ACCENT;1s l IZHITSA w d GRAVE ACCENT;1c l UK;1s l UK
  047A 1c l ROUND OMEGA;1s l ROUND OMEGA;1c l OMEGA w TITLO;1s l OMEGA w TITLO;1c l OT;1s l OT
  0480 1c l KOPPA;1s l KOPPA;1THOUSANDS i;0COMBINING CYRILLIC TITLO;2PALATALIZATION
  0485 2DASIA PNEUMATA;2PSILI PNEUMATA;2POKRYTIE;2HUNDRED THOUSANDS i;2MILLIONS i
  048A 0CYRILLIC c l SHORT I w TAIL;1s l SHORT I w TAIL;1c l SEMISOFT i;1s l SEMISOFT i
  048E 1c l ER w TICK;1s l ER w TICK;1c l GHE w UPTURN;1s l GHE w UPTURN;1c l GHE w q;1s l GHE w q
  0494 1c l GHE w MIDDLE HOOK;1s l GHE w MIDDLE HOOK;1c l ZHE w DESCENDER;1s l ZHE w DESCENDER
  0498 1c l ZE w DESCENDER;1s l ZE w DESCENDER;1c l KA w DESCENDER;1s l KA w DESCENDER
  049C 1c l KA w v q;1s l KA w v q;1c l KA w q;1s l KA w q;1c l BASHKIR KA;1s l BASHKIR KA
  04A2 1c l EN w DESCENDER;1s l EN w DESCENDER;1c LIGATURE EN GHE;1s LIGATURE EN GHE
  04A6 1c l PE w MIDDLE HOOK;1s l PE w MIDDLE HOOK;1c l ABKHASIAN HA;1s l ABKHASIAN HA
  04AA 1c l ES w DESCENDER;1s l ES w DESCENDER;1c l TE w DESCENDER;1s l TE w DESCENDER
  04AE 1c l STRAIGHT U;1s l STRAIGHT U;1c l STRAIGHT U w q;1s l STRAIGHT U w q;1c l HA w DESCENDER
  04B3 1s l HA w DESCENDER;1c LIGATURE TE TSE;1s LIGATURE TE TSE;1c l CHE w DESCENDER
  04B7 1s l CHE w DESCENDER;1c l CHE w v q;1s l CHE w v q;1c l SHHA;1s l SHHA;1c l ABKHASIAN CHE
  04BD 1s l ABKHASIAN CHE;1c l ABKHASIAN CHE w DESCENDER;1s l ABKHASIAN CHE w DESCENDER
  04C0 1l PALOCHKA;1c l ZHE w BREVE;1s l ZHE w BREVE;1c l KA w HOOK;1s l KA w HOOK;1c l EL w TAIL
  04C6 1s l EL w TAIL;1c l EN w HOOK;1s l EN w HOOK;1c l EN w TAIL;1s l EN w TAIL
  04CB 1c l KHAKASSIAN CHE;1s l KHAKASSIAN CHE;1c l EM w TAIL;1s l EM w TAIL;3PALOCHKA
  04D0 1c l A w BREVE;1s l A w BREVE;1c l A w DIAERESIS;1s l A w DIAERESIS;1c LIGATURE A IE
  04D5 1s LIGATURE A IE;1c l IE w BREVE;1s l IE w BREVE;1c l SCHWA;1s l SCHWA
  04DA 1c l SCHWA w DIAERESIS;1s l SCHWA w DIAERESIS;1c l ZHE w DIAERESIS;1s l ZHE w DIAERESIS
  04DE 1c l ZE w DIAERESIS;1s l ZE w DIAERESIS;1c l ABKHASIAN DZE;1s l ABKHASIAN DZE
  04E2 1c l I w MACRON;1s l I w MACRON;1c l I w DIAERESIS;1s l I w DIAERESIS;1c l O w DIAERESIS
  04E7 1s l O w DIAERESIS;1c l BARRED O;1s l BARRED O;1c l BARRED O w DIAERESIS
  04EB 1s l BARRED O w DIAERESIS;1c l E w DIAERESIS;1s l E w DIAERESIS;1c l U w MACRON
  04EF 1s l U w MACRON;1c l U w DIAERESIS;1s l U w DIAERESIS;1c l U w d ACUTE;1s l U w d ACUTE
  04F4 1c l CHE w DIAERESIS;1s l CHE w DIAERESIS;1c l GHE w DESCENDER;1s l GHE w DESCENDER
  04F8 1c l YERU w DIAERESIS;1s l YERU w DIAERESIS;1c l GHE w q h HOOK;1s l GHE w q h HOOK
  04FC 1c l HA w HOOK;1s l HA w HOOK;1c l HA w q;1s l HA w q;1c l KOMI DE;1s l KOMI DE
  0502 1c l KOMI DJE;1s l KOMI DJE;1c l KOMI ZJE;1s l KOMI ZJE;1c l KOMI DZJE;1s l KOMI DZJE
  0508 1c l KOMI LJE;1s l KOMI LJE;1c l KOMI NJE;1s l KOMI NJE;1c l KOMI SJE;1s l KOMI SJE
  050E 1c l KOMI TJE;1s l KOMI TJE;1c l REVERSED ZE;1s l REVERSED ZE;1c l EL w HOOK;1s l EL w HOOK
  0514 1c l LHA;1s l LHA;1c l RHA;1s l RHA;1c l YAE;1s l YAE;1c l QA;1s l QA;1c l WE;1s l WE
  051E 1c l ALEUT KA;1s l ALEUT KA;1c l EL w MIDDLE HOOK;1s l EL w MIDDLE HOOK
  0522 1c l EN w MIDDLE HOOK;1s l EN w MIDDLE HOOK;1c l PE w DESCENDER;1s l PE w DESCENDER
  0526 1c l SHHA w DESCENDER;1s l SHHA w DESCENDER;1c l EN w t HOOK;1s l EN w t HOOK;1c l DZZHE
  052B 1s l DZZHE;1c l DCHE;1s l DCHE;1c l EL w DESCENDER;1s l EL w DESCENDER
  0531 0ARMENIAN c l AYB;3BEN;3GIM;3DA;3ECH;3ZA;3EH;3ET;3TO;3ZHE;3INI;3LIWN;3XEH;3CA;3KEN;3HO;3JA
  0542 3GHAD;3CHEH;3MEN;3YI;3NOW;3SHA;3VO;3CHA;3PEH;3JHEH;3RA;3SEH;3VEW;3TIWN;3REH;3CO;3YIWN;3PIWR
  0554 3KEH;3OH;3FEH
  0559 1MODIFIER l t HALF RING;1APOSTROPHE;1EMPHASIS MARK;1EXCLAMATION MARK;1COMMA;1QUESTION MARK
  055F 1ABBREVIATION MARK;1s l TURNED AYB;3AYB;3BEN;3GIM;3DA;3ECH;3ZA;3EH;3ET;3TO;3ZHE;3INI;3LIWN
  056D 3XEH;3CA;3KEN;3HO;3JA;3GHAD;3CHEH;3MEN;3YI;3NOW;3SHA;3VO;3CHA;3PEH;3JHEH;3RA;3SEH;3VEW
  057F 3TIWN;3REH;3CO;3YIWN;3PIWR;3KEH;3OH;3FEH;2LIGATURE ECH YIWN;2l YI w q;1FULL STOP;1HYPHEN
  058D 0RIGHT-FACING ARMENIAN ETERNITY i;0LEFT-FACING ARMENIAN ETERNITY i;0ARMENIAN DRAM i
  0591 0HEBREW ACCENT ETNAHTA;2SEGOL;2SHALSHELET;2ZAQEF QATAN;3GADOL;2TIPEHA;2REVIA;2ZARQA;2PASHTA
  059A 2YETIV;2TEVIR;2GERESH;3MUQDAM;2GERSHAYIM;2QARNEY PARA;2TELISHA GEDOLA;2PAZER;2ATNAH HAFUKH
  05A3 2MUNAH;2MAHAPAKH;2MERKHA;3KEFULA;2DARGA;2QADMA;2TELISHA QETANA;2YERAH BEN YOMO;2OLE;2ILUY
  05AD 2DEHI;2ZINOR;1MARK MASORA CIRCLE;1POINT SHEVA;2HATAF SEGOL;3PATAH;3QAMATS;2HIRIQ;2TSERE
  05B6 2SEGOL;2PATAH;2QAMATS;2HOLAM;3HASER FOR VAV;2QUBUTS;2DAGESH OR MAPIQ;2METEG
  05BE 1PUNCTUATION MAQAF;1POINT RAFE;1PUNCTUATION PASEQ;1POINT SHIN DOT;2SIN DOT
  05C3 1PUNCTUATION SOF PASUQ;1MARK UPPER DOT;2LOWER DOT;1PUNCTUATION NUN HAFUKHA
  05C7 1POINT QAMATS QATAN
  05D0 1l ALEF;2BET;2GIMEL;2DALET;2HE;2VAV;2ZAYIN;2HET;2TET;2YOD;2n KAF;2KAF;2LAMED;2n MEM;2MEM
  05DF 2n NUN;2NUN;2SAMEKH;2AYIN;2n PE;2PE;2n TSADI;2TSADI;2QOF;2RESH;2SHIN;2TAV
  05EF 1YOD TRIANGLE;1LIGATURE YIDDISH d VAV;3VAV YOD;3d YOD;1PUNCTUATION GERESH;2GERSHAYIM
  0600 0ARABIC NUMBER i;1i SANAH;1FOOTNOTE MARKER;1i SAFHA;2SAMVAT;1NUMBER MARK b
  0606 0ARABIC-INDIC CUBE ROOT;1FOURTH ROOT;0ARABIC RAY;0ARABIC-INDIC PER MILLE i;2TEN THOUSAND i
  060B 0AFGHANI i;0ARABIC COMMA;1DATE SEPARATOR;1POETIC VERSE i;1i MISRA
  0610 2SALLALLAHOU ALAYHE WASSALLAM;2ALAYHE ASSALLAM;2RAHMATULLAH ALAYHE;2RADI ALLAHOU ANHU
  0614 2TAKHALLUS;1s HIGH TAH;3LIGATURE ALEF w LAM w YEH;3ZAIN;2FATHA;2DAMMA;2KASRA;1SEMICOLON
  061C 1l MARK;1END OF TEXT MARK;1TRIPLE DOT PUNCTUATION MARK;1QUESTION MARK;1l KASHMIRI YEH
  0621 2HAMZA;2ALEF w MADDA b;4HAMZA b;2WAW w HAMZA b;2ALEF w HAMZA e;2YEH w HAMZA b;2ALEF;2BEH
  0629 2TEH MARBUTA;3;2THEH;2JEEM;2HAH;2KHAH;2DAL;2THAL;2REH;2ZAIN;2SEEN;2SHEEN;2SAD;2DAD;2TAH
  0638 2ZAH;2AIN;2GHAIN;2KEHEH w TWO DOTS b;4m DOTS e;2FARSI YEH w INVERTED V;5TWO DOTS b
  063F 5m DOTS b;1TATWEEL;1l FEH;2QAF;2KAF;2LAM;2MEEM;2NOON;2HEH;2WAW;2ALEF MAKSURA;2YEH;1FATHATAN
  064C 1DAMMATAN;1KASRATAN;1FATHA;1DAMMA;1KASRA;1SHADDA;1SUKUN;1MADDAH b;1HAMZA b;2e
  0656 1SUBSCRIPT ALEF;1INVERTED DAMMA;1MARK NOON GHUNNA;1ZWARAKAY;1VOWEL i s V b;3INVERTED s V b
  065C 3DOT e;1REVERSED DAMMA;1FATHA w TWO DOTS;1WAVY HAMZA e;0ARABIC-INDIC DIGIT ZERO;2ONE;2TWO
  0663 2m;2FOUR;2FIVE;2SIX;2SEVEN;2EIGHT;2NINE;0ARABIC PERCENT i;1DECIMAL SEPARATOR
  066C 1THOUSANDS SEPARATOR;1FIVE POINTED STAR;1l DOTLESS BEH;3QAF;2SUPERSCRIPT ALEF;2ALEF WASLA
  0672 3w WAVY HAMZA b;6e;2HIGH HAMZA;4ALEF;4WAW;2U w HAMZA b;2HIGH HAMZA YEH;2TTEH;2TTEHEH;2BEEH
  067C 2TEH w RING;4m DOTS b DOWNWARDS;2PEH;2TEHEH;2BEHEH;2HAH w HAMZA b;4TWO DOTS v b;2NYEH;2DYEH
  0685 2HAH w m DOTS b;2TCHEH;2TCHEHEH;2DDAL;2DAL w RING;4DOT e;6h s TAH;2DAHAL;2DDAHAL;2DUL
  068F 2DAL w m DOTS b DOWNWARDS;4FOUR DOTS b;2RREH;2REH w s V;4RING;4DOT e;4s V e;4DOT e h DOT b
  0697 4TWO DOTS b;2JEH;2REH w FOUR DOTS b;2SEEN w DOT e h DOT b;4m DOTS e;7h m DOTS b
  069D 2SAD w TWO DOTS e;4m DOTS b;2TAH w m DOTS b;2AIN w m DOTS b;2DOTLESS FEH;2FEH w DOT MOVED e
  06A3 5e;2VEH;2FEH w m DOTS e;2PEHEH;2QAF w DOT b;4m DOTS b;2KEHEH;2SWASH KAF;2KAF w RING;4DOT b
  06AD 2NG;2KAF w m DOTS e;2GAF;3w RING;2NGOEH;2GAF w TWO DOTS e;2GUEH;2GAF w m DOTS b;2LAM w s V
  06B6 4DOT b;4m DOTS b;6e;2NOON w DOT e;3GHUNNA;2RNOON;2NOON w RING;4m DOTS b;2HEH DOACHASHMEE
  06BF 2TCHEH w DOT b;2HEH w YEH b;3GOAL;4w HAMZA b;2TEH MARBUTA GOAL;2WAW w RING;2KIRGHIZ OE;2OE
  06C7 2U;2YU;2KIRGHIZ YU;2WAW w TWO DOTS b;2VE;2FARSI YEH;2YEH w TAIL;4s V;2WAW w DOT b;2E
  06D1 2YEH w m DOTS e;3BARREE;4w HAMZA b;1FULL STOP;1l AE
  06D6 1s HIGH LIGATURE SAD w LAM w ALEF MAKSURA;4QAF w LAM w ALEF MAKSURA;3MEEM k f;3LAM ALEF
  06DA 3JEEM;3m DOTS;3SEEN;1END OF AYAH;1START OF RUB EL HIZB;1s HIGH ROUNDED ZERO
  06E0 3UPRIGHT RECTANGULAR ZERO;3DOTLESS HEAD OF KHAH;3MEEM o f;2LOW SEEN;2HIGH MADDA;2WAW;2YEH
  06E7 2HIGH YEH;3NOON;1PLACE OF SAJDAH;1EMPTY CENTRE LOW STOP;3HIGH STOP
  06EC 1ROUNDED HIGH STOP w FILLED CENTRE;1s LOW MEEM;1l DAL w INVERTED V;2REH w INVERTED V
  06F0 0EXTENDED ARABIC-INDIC DIGIT ZERO;3ONE;3TWO;3m;3FOUR;3FIVE;3SIX;3SEVEN;3EIGHT;3NINE
  06FA 0ARABIC l SHEEN w DOT e;2DAD w DOT e;2GHAIN w DOT e;1i SINDHI AMPERSAND;3POSTPOSITION MEN
  06FF 1l HEH w INVERTED V;0SYRIAC END OF PARAGRAPH;1SUPRALINEAR FULL STOP;1SUBLINEAR FULL STOP
  0703 1SUPRALINEAR COLON;1SUBLINEAR COLON;1z COLON;1COLON SKEWED t;3r;1SUPRALINEAR COLON SKEWED t
  0709 1SUBLINEAR COLON SKEWED r;1CONTRACTION;1HARKLEAN OBELUS;2METOBELUS;2ASTERISCUS
  070F 1ABBREVIATION MARK;1l ALAPH;2SUPERSCRIPT ALAPH;2BETH;2GAMAL;3GARSHUNI;2DALATH
  0716 2DOTLESS DALATH RISH;2HE;2WAW;2ZAIN;2HETH;2TETH;3GARSHUNI;2YUDH;3HE;2KAPH;2LAMADH;2MIM;2NUN
  0723 2SEMKATH;2n SEMKATH;2E;2PE;2REVERSED PE;2SADHE;2QAPH;2RISH;2SHIN;2TAW;2PERSIAN BHETH
  072E 3GHAMAL;3DHALATH;1PTHAHA b;2e;2DOTTED;1ZQAPHA b;2e;2DOTTED;1RBASA b;2e;1DOTTED ZLAMA z
  0739 3ANGULAR;1HBASA b;2e;1HBASA-ESASA DOTTED;1ESASA b;2e;1RWAHA;1FEMININE DOT;1QUSHSHAYA
  0742 1RUKKAKHA;1TWO v DOTS b;4e;1m DOTS b;3e;1OBLIQUE LINE b;3e;1MUSIC;1BARREKH
  074D 1l SOGDIAN ZHAIN;3KHAPH;3FE;0ARABIC l BEH w m DOTS HORIZONTALLY e;4DOT e h m DOTS b
  0752 4m DOTS POINTING UPWARDS e;9h TWO DOTS b;4TWO DOTS e h DOT b;4INVERTED s V e;4s V
  0757 2HAH w TWO DOTS b;4m DOTS POINTING UPWARDS e;2DAL w TWO DOTS VERTICALLY e h s TAH
  075A 4INVERTED s V e;2REH w q;2SEEN w FOUR DOTS b;2AIN w TWO DOTS b;4m DOTS POINTING DOWNWARDS b
  075F 4TWO DOTS VERTICALLY b;2FEH w TWO DOTS e;4m DOTS POINTING UPWARDS e;2KEHEH w DOT b
  0763 4m DOTS b;6POINTING UPWARDS e;2MEEM w DOT b;5e;2NOON w TWO DOTS e;4s TAH;5V;2LAM w BAR
  076B 2REH w TWO DOTS VERTICALLY b;4HAMZA b;2SEEN w TWO DOTS VERTICALLY b;2HAH w s ARABIC l TAH e
  076F 8h TWO DOTS;2SEEN w s ARABIC l TAH h TWO DOTS;2REH w s ARABIC l TAH h TWO DOTS
  0772 2HAH w s ARABIC l TAH b;2ALEF w EXTENDED ARABIC-INDIC DIGIT TWO b;7m b
  0775 2FARSI YEH w EXTENDED ARABIC-INDIC DIGIT TWO b;8m b;8FOUR e
  0778 2WAW w EXTENDED ARABIC-INDIC DIGIT TWO b;7m b
  077A 2YEH BARREE w EXTENDED ARABIC-INDIC DIGIT TWO b;8m b
  077C 2HAH w EXTENDED ARABIC-INDIC DIGIT FOUR e;2SEEN w EXTENDED ARABIC-INDIC DIGIT FOUR b
  077E 4INVERTED V;2KAF w TWO DOTS b;0THAANA l HAA;2SHAVIYANI;2NOONU;2RAA;2BAA;2LHAVIYANI;2KAAFU
  0787 2ALIFU;2VAAVU;2MEEMU;2FAAFU;2DHAALU;2THAA;2LAAMU;2GAAFU;2GNAVIYANI;2SEENU;2DAVIYANI
  0792 2ZAVIYANI;2TAVIYANI;2YAA;2PAVIYANI;2JAVIYANI;2CHAVIYANI;2TTAA;2HHAA;2KHAA;2THAALU;2ZAA
  079D 2SHEENU;2SAADHU;2DAADHU;2TO;2ZO;2AINU;2GHAINU;2QAAFU;2WAAVU;1ABAFILI;1AABAAFILI;1IBIFILI
  07A9 1EEBEEFILI;1UBUFILI;1OOBOOFILI;1EBEFILI;1EYBEYFILI;1OBOFILI;1OABOAFILI;1SUKUN;1l NAA
  07C0 0NKO DIGIT ZERO;2ONE;2TWO;2m;2FOUR;2FIVE;2SIX;2SEVEN;2EIGHT;2NINE;1l A;2EE;2I;2E;2U;2OO;2O
  07D1 2DAGBASINNA;2N;2BA;2PA;2TA;2JA;2CHA;2DA;2RA;2RRA;2SA;2GBA;2FA;2KA;2LA;2NA WOLOSO;2MA;2NYA
  07E3 2NA;2HA;2WA;2YA;2NYA WOLOSO;2JONA JA;3CHA;3RA;1COMBINING SHORT HIGH TONE;3LOW TONE
  07ED 3RISING TONE;2LONG DESCENDING TONE;3HIGH TONE;3LOW TONE;3RISING TONE;2NASALIZATION MARK
  07F3 2d DOT b;1HIGH TONE APOSTROPHE;1LOW TONE APOSTROPHE;1y OO DENNEN;2GBAKURUNEN;1COMMA
  07F9 1EXCLAMATION MARK;1LAJANYALAN
  07FD 1DANTAYALAN;1DOROME i;1TAMAN i;0SAMARITAN l ALAF;2BIT;2GAMAN;2DALAT;2IY;2BAA;2ZEN;2IT;2TIT
  0809 2YUT;2KAAF;2LABAT;2MIM;2NUN;2SINGAAT;2IN;2FI;2TSAADIY;2QUF;2RISH;2SHAN;2TAAF;1MARK IN
  0817 2IN-ALAF;2OCCLUSION;2DAGESH;1MODIFIER l EPENTHETIC YUT;1MARK EPENTHETIC YUT;1VOWEL i LONG E
  081D 3E;3OVERLONG AA;3LONG AA;3AA;3OVERLONG A;3LONG A;3A;1MODIFIER l SHORT A;1VOWEL i SHORT A
  0826 3LONG U;3U;1MODIFIER l I;1VOWEL i LONG I;3I;3O;3SUKUN;1MARK NEQUDAA
  0830 1PUNCTUATION NEQUDAA;2AFSAAQ;2ANGED;2BAU;2ATMAAU;2SHIYYAALAA;1ABBREVIATION MARK
  0837 1PUNCTUATION MELODIC QITSA;2ZIQAA;2QITSA;2ZAEF;2TURU;2ARKAANU;2SOF MASHFAAT;2ANNAAU
  0840 0MANDAIC l HALQA;2AB;2AG;2AD;2AH;2USHENNA;2AZ;2IT;2ATT;2AKSA;2AK;2AL;2AM;2AN;2AS;2IN;2AP
  0851 2ASZ;2AQ;2AR;2ASH;2AT;2DUSHENNA;2KAD;2AIN;1AFFRICATION MARK;1VOCALIZATION MARK
  085B 1GEMINATION MARK
  085E 1PUNCTUATION
  0860 0SYRIAC l MALAYALAM NGA;3JA;3NYA;3TTA;3NNA;3NNNA;3BHA;3RA;3LLA;3LLLA;3SSA
  0870 0ARABIC l ALEF w ATTACHED FATHA;5TOP r FATHA;4r MIDDLE q;4t MIDDLE q;4ATTACHED KASRA
  0875 5BOTTOM r KASRA;5ROUND DOT b;5r ROUND DOT;5t ROUND DOT;5ROUND DOT e;4DOT b
  087B 4ATTACHED TOP r FATHA h DOT b;4r MIDDLE q h DOT b;4ATTACHED BOTTOM r KASRA h DOT b
  087E 5TOP r FATHA h t RING;4r MIDDLE q h t RING;4ATTACHED BOTTOM r KASRA h t RING;5r HAMZA
  0882 5t HAMZA;1TATWEEL w OVERSTRUCK HAMZA;4WAW;3TWO DOTS e;1l THIN YEH;1BASELINE ROUND DOT
  0888 1RAISED ROUND DOT;1l NOON w INVERTED s V;2HAH w INVERTED s V e;2TAH w DOT e;4m DOTS e
  088D 2KEHEH w TWO DOTS VERTICALLY e;1v TAIL
  0890 1POUND MARK b;1PIASTRE MARK b
  0898 1s HIGH WORD AL-JUZ;2LOW WORD ISHMAAM;4IMAALA;4TASHEEL;1MADDA WAAJIB
  089D 1SUPERSCRIPT ALEF MOKHASSAS;1DOUBLED MADDA;1HALF MADDA OVER MADDA;1l BEH w s V e;4HAMZA b
  08A2 2JEEM w TWO DOTS b;2TAH w TWO DOTS b;2FEH w DOT e h m DOTS b;2QAF w DOT e;2LAM w d BAR
  08A7 2MEEM w m DOTS b;2YEH w TWO DOTS e h HAMZA b;8DOT b;2REH w LOOP;2WAW w DOT WITHIN
  08AC 2ROHINGYA YEH;2LOW ALEF;2DAL w m DOTS e;2SAD w m DOTS e;2GAF w INVERTED q;2STRAIGHT WAW
  08B2 2ZAIN w INVERTED V b;2AIN w m DOTS e;2KAF w DOT e;2QAF w DOT e h NO DOTS b;2BEH w s MEEM b
  08B7 2PEH w s MEEM b;2TEH w s TEH b;2REH w s NOON b;2YEH w TWO DOTS e h s NOON b;2AFRICAN FEH
  08BC 3QAF;3NOON;2PEH w s V;2TEH w s V;2TTEH w s V;2TCHEH w s V;2KEHEH w s V;2GHAIN w m DOTS b
  08C4 2AFRICAN QAF w m DOTS b;2JEEM w m DOTS b;6e;2LAM w s ARABIC l TAH b;2GRAF;1s FARSI YEH
  08CA 2HIGH FARSI YEH;3YEH BARREE w TWO DOTS e;3WORD SAH;3ZAH;1LARGE ROUND DOT b;4e;1SUKUN e
  08D1 1LARGE CIRCLE e;2ROUND DOT INSIDE CIRCLE e;1s LOW WAW;2HIGH WORD AR-RUB;3SAD;3AIN;3QAF
  08D8 3NOON w KASRA;2LOW NOON w KASRA;2HIGH WORD ATH-THALATHA;4AS-SAJDA;4AN-NISF;4SAKTA;4QIF
  08DF 4WAQFA;3FOOTNOTE MARKER;3i SAFHA;1DISPUTED END OF AYAH;1TURNED DAMMA e;1CURLY FATHA;2DAMMA
  08E6 2KASRA;2FATHATAN;2DAMMATAN;2KASRATAN;1TONE ONE DOT b;2TWO DOTS b;2LOOP b;2ONE DOT e
  08EE 2TWO DOTS e;2LOOP e;1OPEN FATHATAN;2DAMMATAN;2KASRATAN;1s HIGH WAW;1FATHA w RING;3DOT b
  08F6 1KASRA w DOT e;1t ARROWHEAD b;1r ARROWHEAD b;1t ARROWHEAD e;1r ARROWHEAD e;1d r ARROWHEAD b
  08FC 5w DOT;1r ARROWHEAD b w DOT;1DAMMA w DOT;1MARK SIDEWAYS NOON GHUNNA
  0900 0DEVANAGARI i INVERTED CANDRABINDU;2CANDRABINDU;2ANUSVARA;2VISARGA;1l SHORT A;2A;2AA;2I;2II
  0909 2U;2UU;2VOCALIC R;3L;2CANDRA E;2SHORT E;2E;2AI;2CANDRA O;2SHORT O;2O;2AU;2KA;2KHA;2GA;2GHA
  0919 2NGA;2CA;2CHA;2JA;2JHA;2NYA;2TTA;2TTHA;2DDA;2DDHA;2NNA;2TA;2THA;2DA;2DHA;2NA;2NNNA;2PA;2PHA
  092C 2BA;2BHA;2MA;2YA;2RA;2RRA;2LA;2LLA;2LLLA;2VA;2SHA;2SSA;2SA;2HA;1VOWEL i OE;3OOE;1i NUKTA
  093D 2AVAGRAHA;1VOWEL i AA;3I;3II;3U;3UU;3VOCALIC R;4RR;3CANDRA E;3SHORT E;3E;3AI;3CANDRA O
  094A 3SHORT O;3O;3AU;1i VIRAMA;1VOWEL i PRISHTHAMATRA E;3AW;1OM;1STRESS i UDATTA;3ANUDATTA
  0953 1GRAVE ACCENT;1ACUTE ACCENT;1VOWEL i CANDRA LONG E;3UE;3UUE;1l QA;2KHHA;2GHHA;2ZA;2DDDHA
  095D 2RHA;2FA;2YYA;2VOCALIC RR;3LL;1VOWEL i VOCALIC L;4LL;1DANDA;1d DANDA;1DIGIT ZERO;2ONE;2TWO
  0969 2m;2FOUR;2FIVE;2SIX;2SEVEN;2EIGHT;2NINE;1ABBREVIATION i;1i HIGH SPACING DOT;1l CANDRA A;2OE
  0974 2OOE;2AW;2UE;2UUE;2MARWARI DDA;2ZHA;2HEAVY YA;2GGA;2JJA;2GLOTTAL STOP;2DDDA;2BBA
  0980 0BENGALI ANJI;1i CANDRABINDU;2ANUSVARA;2VISARGA
  0985 1l A;2AA;2I;2II;2U;2UU;2VOCALIC R;3L
  098F 2E;2AI
  0993 2O;2AU;2KA;2KHA;2GA;2GHA;2NGA;2CA;2CHA;2JA;2JHA;2NYA;2TTA;2TTHA;2DDA;2DDHA;2NNA;2TA;2THA
  09A6 2DA;2DHA;2NA
  09AA 2PA;2PHA;2BA;2BHA;2MA;2YA;2RA
  09B2 2LA
  09B6 2SHA;2SSA;2SA;2HA
  09BC 1i NUKTA;2AVAGRAHA;1VOWEL i AA;3I;3II;3U;3UU;3VOCALIC R;4RR
  09C7 3E;3AI
  09CB 3O;3AU;1i VIRAMA;1l KHANDA TA
  09D7 1AU LENGTH MARK
  09DC 1l RRA;2RHA
  09DF 2YYA;2VOCALIC RR;3LL;1VOWEL i VOCALIC L;4LL
  09E6 1DIGIT ZERO;2ONE;2TWO;2m;2FOUR;2FIVE;2SIX;2SEVEN;2EIGHT;2NINE;1l RA w MIDDLE DIAGONAL
  09F1 4LOWER DIAGONAL;1RUPEE MARK;2i;1CURRENCY NUMERATOR ONE;3TWO;3m;3FOUR
  09F8 3ONE LESS THAN THE DENOMINATOR;2DENOMINATOR SIXTEEN;1ISSHAR;1GANDA MARK;1l VEDIC ANUSVARA
  09FD 1ABBREVIATION i;1SANDHI MARK
  0A01 0GURMUKHI i ADAK BINDI;2BINDI;2VISARGA
  0A05 1l A;2AA;2I;2II;2U;2UU
  0A0F 2EE;2AI
  0A13 2OO;2AU;2KA;2KHA;2GA;2GHA;2NGA;2CA;2CHA;2JA;2JHA;2NYA;2TTA;2TTHA;2DDA;2DDHA;2NNA;2TA;2THA
  0A26 2DA;2DHA;2NA
  0A2A 2PA;2PHA;2BA;2BHA;2MA;2YA;2RA
  0A32 2LA;2LLA
  0A35 2VA;2SHA
  0A38 2SA;2HA
  0A3C 1i NUKTA
  0A3E 1VOWEL i AA;3I;3II;3U;3UU
  0A47 3EE;3AI
  0A4B 3OO;3AU;1i VIRAMA
  0A51 2UDAAT
  0A59 1l KHHA;2GHHA;2ZA;2RRA
  0A5E 2FA
  0A66 1DIGIT ZERO;2ONE;2TWO;2m;2FOUR;2FIVE;2SIX;2SEVEN;2EIGHT;2NINE;1TIPPI;1ADDAK;1IRI;1URA
  0A74 1EK ONKAR;1i YAKASH;1ABBREVIATION i
  0A81 0GUJARATI i CANDRABINDU;2ANUSVARA;2VISARGA
  0A85 1l A;2AA;2I;2II;2U;2UU;2VOCALIC R;3L;1VOWEL CANDRA E
  0A8F 1l E;2AI;1VOWEL CANDRA O
  0A93 1l O;2AU;2KA;2KHA;2GA;2GHA;2NGA;2CA;2CHA;2JA;2JHA;2NYA;2TTA;2TTHA;2DDA;2DDHA;2NNA;2TA;2THA
  0AA6 2DA;2DHA;2NA
  0AAA 2PA;2PHA;2BA;2BHA;2MA;2YA;2RA
  0AB2 2LA;2LLA
  0AB5 2VA;2SHA;2SSA;2SA;2HA
  0ABC 1i NUKTA;2AVAGRAHA;1VOWEL i AA;3I;3II;3U;3UU;3VOCALIC R;4RR;3CANDRA E
  0AC7 3E;3AI;3CANDRA O
  0ACB 3O;3AU;1i VIRAMA
  0AD0 1OM
  0AE0 1l VOCALIC RR;3LL;1VOWEL i VOCALIC L;4LL
  0AE6 1DIGIT ZERO;2ONE;2TWO;2m;2FOUR;2FIVE;2SIX;2SEVEN;2EIGHT;2NINE;1ABBREVIATION i;1RUPEE i
  0AF9 1l ZHA;1i SUKUN;2SHADDA;2MADDAH;2THREE-DOT NUKTA b;2CIRCLE NUKTA b;2TWO-CIRCLE NUKTA b
  0B01 0ORIYA i CANDRABINDU;2ANUSVARA;2VISARGA
  0B05 1l A;2AA;2I;2II;2U;2UU;2VOCALIC R;3L
  0B0F 2E;2AI
  0B13 2O;2AU;2KA;2KHA;2GA;2GHA;2NGA;2CA;2CHA;2JA;2JHA;2NYA;2TTA;2TTHA;2DDA;2DDHA;2NNA;2TA;2THA
  0B26 2DA;2DHA;2NA
  0B2A 2PA;2PHA;2BA;2BHA;2MA;2YA;2RA
  0B32 2LA;2LLA
  0B35 2VA;2SHA;2SSA;2SA;2HA
  0B3C 1i NUKTA;2AVAGRAHA;1VOWEL i AA;3I;3II;3U;3UU;3VOCALIC R;4RR
  0B47 3E;3AI
  0B4B 3O;3AU;1i VIRAMA
  0B55 2OVERLINE;1AI LENGTH MARK;1AU LENGTH MARK
  0B5C 1l RRA;2RHA
  0B5F 2YYA;2VOCALIC RR;3LL;1VOWEL i VOCALIC L;4LL
  0B66 1DIGIT ZERO;2ONE;2TWO;2m;2FOUR;2FIVE;2SIX;2SEVEN;2EIGHT;2NINE;1ISSHAR;1l WA
  0B72 1FRACTION ONE QUARTER;3HALF;2m QUARTERS;2ONE SIXTEENTH;3EIGHTH;2m SIXTEENTHS
  0B82 0TAMIL i ANUSVARA;2VISARGA
  0B85 1l A;2AA;2I;2II;2U;2UU
  0B8E 2E;2EE;2AI
  0B92 2O;2OO;2AU;2KA
  0B99 2NGA;2CA
  0B9C 2JA
  0B9E 2NYA;2TTA
  0BA3 2NNA;2TA
  0BA8 2NA;2NNNA;2PA
  0BAE 2MA;2YA;2RA;2RRA;2LA;2LLA;2LLLA;2VA;2SHA;2SSA;2SA;2HA
  0BBE 1VOWEL i AA;3I;3II;3U;3UU
  0BC6 3E;3EE;3AI
  0BCA 3O;3OO;3AU;1i VIRAMA
  0BD0 1OM
  0BD7 1AU LENGTH MARK
  0BE6 1DIGIT ZERO;2ONE;2TWO;2m;2FOUR;2FIVE;2SIX;2SEVEN;2EIGHT;2NINE;1NUMBER TEN;2ONE HUNDRED
  0BF2 3THOUSAND;1DAY i;1MONTH i;1YEAR i;1DEBIT i;1CREDIT i;1AS b i;1RUPEE i;1NUMBER i
  0C00 0TELUGU i COMBINING CANDRABINDU b;2CANDRABINDU;2ANUSVARA;2VISARGA;2COMBINING ANUSVARA b
  0C05 1l A;2AA;2I;2II;2U;2UU;2VOCALIC R;3L
  0C0E 2E;2EE;2AI
  0C12 2O;2OO;2AU;2KA;2KHA;2GA;2GHA;2NGA;2CA;2CHA;2JA;2JHA;2NYA;2TTA;2TTHA;2DDA;2DDHA;2NNA;2TA
  0C25 2THA;2DA;2DHA;2NA
  0C2A 2PA;2PHA;2BA;2BHA;2MA;2YA;2RA;2RRA;2LA;2LLA;2LLLA;2VA;2SHA;2SSA;2SA;2HA
  0C3C 1i NUKTA;2AVAGRAHA;1VOWEL i AA;3I;3II;3U;3UU;3VOCALIC R;4RR
  0C46 3E;3EE;3AI
  0C4A 3O;3OO;3AU;1i VIRAMA
  0C55 1LENGTH MARK;1AI LENGTH MARK
  0C58 1l TSA;2DZA;2RRRA
  0C5D 2NAKAARA POLLU
  0C60 2VOCALIC RR;3LL;1VOWEL i VOCALIC L;4LL
  0C66 1DIGIT ZERO;2ONE;2TWO;2m;2FOUR;2FIVE;2SIX;2SEVEN;2EIGHT;2NINE
  0C77 1i SIDDHAM;1FRACTION DIGIT ZERO FOR ODD POWERS OF FOUR;3ONE FOR ODD POWERS OF FOUR
  0C7A 3TWO FOR ODD POWERS OF FOUR;3m FOR ODD POWERS OF FOUR;3ONE FOR EVEN POWERS OF FOUR
  0C7D 3TWO FOR EVEN POWERS OF FOUR;3m FOR EVEN POWERS OF FOUR;1i TUUMU
  0C80 0KANNADA i SPACING CANDRABINDU;2CANDRABINDU;2ANUSVARA;2VISARGA;2SIDDHAM;1l A;2AA;2I;2II;2U
  0C8A 2UU;2VOCALIC R;3L
  0C8E 2E;2EE;2AI
  0C92 2O;2OO;2AU;2KA;2KHA;2GA;2GHA;2NGA;2CA;2CHA;2JA;2JHA;2NYA;2TTA;2TTHA;2DDA;2DDHA;2NNA;2TA
  0CA5 2THA;2DA;2DHA;2NA
  0CAA 2PA;2PHA;2BA;2BHA;2MA;2YA;2RA;2RRA;2LA;2LLA
  0CB5 2VA;2SHA;2SSA;2SA;2HA
  0CBC 1i NUKTA;2AVAGRAHA;1VOWEL i AA;3I;3II;3U;3UU;3VOCALIC R;4RR
  0CC6 3E;3EE;3AI
  0CCA 3O;3OO;3AU;1i VIRAMA
  0CD5 1LENGTH MARK;1AI LENGTH MARK
  0CDD 1l NAKAARA POLLU;2FA
  0CE0 2VOCALIC RR;3LL;1VOWEL i VOCALIC L;4LL
  0CE6 1DIGIT ZERO;2ONE;2TWO;2m;2FOUR;2FIVE;2SIX;2SEVEN;2EIGHT;2NINE
  0CF1 1i JIHVAMULIYA;2UPADHMANIYA
  0D00 0MALAYALAM i COMBINING ANUSVARA b;2CANDRABINDU;2ANUSVARA;2VISARGA;1l VEDIC ANUSVARA;2A;2AA
  0D07 2I;2II;2U;2UU;2VOCALIC R;3L
  0D0E 2E;2EE;2AI
  0D12 2O;2OO;2AU;2KA;2KHA;2GA;2GHA;2NGA;2CA;2CHA;2JA;2JHA;2NYA;2TTA;2TTHA;2DDA;2DDHA;2NNA;2TA
  0D25 2THA;2DA;2DHA;2NA;2NNNA;2PA;2PHA;2BA;2BHA;2MA;2YA;2RA;2RRA;2LA;2LLA;2LLLA;2VA;2SHA;2SSA;2SA
  0D39 2HA;2TTTA;1i v BAR VIRAMA;2CIRCULAR VIRAMA;2AVAGRAHA;1VOWEL i AA;3I;3II;3U;3UU;3VOCALIC R
  0D44 4RR
  0D46 3E;3EE;3AI
  0D4A 3O;3OO;3AU;1i VIRAMA;1l DOT REPH;1i PARA
  0D54 1l CHILLU M;3Y;3LLL;1AU LENGTH MARK;1FRACTION ONE ONE-HUNDRED-AND-SIXTIETH;3FORTIETH
  0D5A 2m EIGHTIETHS;2ONE TWENTIETH;3TENTH;2m TWENTIETHS;2ONE FIFTH;1l ARCHAIC II;2VOCALIC RR;3LL
  0D62 1VOWEL i VOCALIC L;4LL
  0D66 1DIGIT ZERO;2ONE;2TWO;2m;2FOUR;2FIVE;2SIX;2SEVEN;2EIGHT;2NINE;1NUMBER TEN;2ONE HUNDRED
  0D72 3THOUSAND;1FRACTION ONE QUARTER;3HALF;2m QUARTERS;2ONE SIXTEENTH;3EIGHTH;2m SIXTEENTHS
  0D79 1DATE MARK;1l CHILLU NN;3N;3RR;3L;3LL;3K
  0D81 0SINHALA i CANDRABINDU;2ANUSVARAYA;2VISARGAYA
  0D85 1l AYANNA;2AAYANNA;2AEYANNA;2AEEYANNA;2IYANNA;2IIYANNA;2UYANNA;2UUYANNA;2IRUYANNA
  0D8E 2IRUUYANNA;2ILUYANNA;2ILUUYANNA;2EYANNA;2EEYANNA;2AIYANNA;2OYANNA;2OOYANNA;2AUYANNA
  0D9A 2ALPAPRAANA KAYANNA;2MAHAAPRAANA KAYANNA;2ALPAPRAANA GAYANNA;2MAHAAPRAANA GAYANNA
  0D9E 2KANTAJA NAASIKYAYA;2SANYAKA GAYANNA;2ALPAPRAANA CAYANNA;2MAHAAPRAANA CAYANNA
  0DA2 2ALPAPRAANA JAYANNA;2MAHAAPRAANA JAYANNA;2TAALUJA NAASIKYAYA;3SANYOOGA NAAKSIKYAYA
  0DA6 2SANYAKA JAYANNA;2ALPAPRAANA TTAYANNA;2MAHAAPRAANA TTAYANNA;2ALPAPRAANA DDAYANNA
  0DAA 2MAHAAPRAANA DDAYANNA;2MUURDHAJA NAYANNA;2SANYAKA DDAYANNA;2ALPAPRAANA TAYANNA
  0DAE 2MAHAAPRAANA TAYANNA;2ALPAPRAANA DAYANNA;2MAHAAPRAANA DAYANNA;2DANTAJA NAYANNA
  0DB3 2SANYAKA DAYANNA;2ALPAPRAANA PAYANNA;2MAHAAPRAANA PAYANNA;2ALPAPRAANA BAYANNA
  0DB7 2MAHAAPRAANA BAYANNA;2MAYANNA;2AMBA BAYANNA;2YAYANNA;2RAYANNA
  0DBD 2DANTAJA LAYANNA
  0DC0 2VAYANNA;2TAALUJA SAYANNA;2MUURDHAJA SAYANNA;2DANTAJA SAYANNA;2HAYANNA;2MUURDHAJA LAYANNA
  0DC6 2FAYANNA
  0DCA 1i AL-LAKUNA
  0DCF 1VOWEL i AELA-PILLA;3KETTI AEDA-PILLA;3DIGA AEDA-PILLA;3KETTI IS-PILLA;3DIGA IS-PILLA
  0DD4 3KETTI PAA-PILLA
  0DD6 3DIGA PAA-PILLA
  0DD8 3GAETTA-PILLA;3KOMBUVA;3DIGA KOMBUVA;3KOMBU DEKA;3KOMBUVA HAA AELA-PILLA;5DIGA AELA-PILLA
  0DDE 5GAYANUKITTA;3GAYANUKITTA
  0DE6 1LITH DIGIT ZERO;3ONE;3TWO;3m;3FOUR;3FIVE;3SIX;3SEVEN;3EIGHT;3NINE
  0DF2 1VOWEL i DIGA GAETTA-PILLA;4GAYANUKITTA;1PUNCTUATION KUNDDALIYA
  0E01 0THAI CHARACTER KO KAI;2KHO KHAI;3KHUAT;3KHWAI;3KHON;3RAKHANG;2NGO NGU;2CHO CHAN;3CHING
  0E0A 3CHANG;2SO SO;2CHO CHOE;2YO YING;2DO CHADA;2TO PATAK;2THO THAN;3NANGMONTHO;3PHUTHAO;2NO NEN
  0E14 2DO DEK;2TO TAO;2THO THUNG;3THAHAN;3THONG;2NO NU;2BO BAIMAI;2PO PLA;2PHO PHUNG;2FO FA
  0E1E 2PHO PHAN;2FO FAN;2PHO SAMPHAO;2MO MA;2YO YAK;2RO RUA;2RU;2LO LING;2LU;2WO WAEN;2SO SALA
  0E29 3RUSI;3SUA;2HO HIP;2LO CHULA;2O ANG;2HO NOKHUK;2PAIYANNOI;2SARA A;2MAI HAN-AKAT;2SARA AA
  0E33 3AM;3I;3II;3UE;3UEE;3U;3UU;2PHINTHU
  0E3F 1CURRENCY y BAHT;1CHARACTER SARA E;3AE;3O;3AI MAIMUAN;4MAIMALAI;2LAKKHANGYAO;2MAIYAMOK
  0E47 2MAITAIKHU;2MAI EK;3THO;3TRI;3CHATTAWA;2THANTHAKHAT;2NIKHAHIT;2YAMAKKAN;2FONGMAN
  0E50 1DIGIT ZERO;2ONE;2TWO;2m;2FOUR;2FIVE;2SIX;2SEVEN;2EIGHT;2NINE;1CHARACTER ANGKHANKHU;2KHOMUT
  0E81 0LAO l KO;2KHO SUNG
  0E84 3TAM
  0E86 2PALI GHA;2NGO;2CO;2PALI CHA;2SO TAM
  0E8C 2PALI JHA;2NYO;2PALI NYA;3TTA;3TTHA;3DDA;3DDHA;3NNA;2DO;2TO;2THO SUNG;3TAM;2PALI DHA;2NO
  0E9A 2BO;2PO;2PHO SUNG;2FO TAM;2PHO TAM;2FO SUNG;2PALI BHA;2MO;2YO;2LO LING
  0EA5 3LOOT
  0EA7 2WO;2SANSKRIT SHA;3SSA;2SO SUNG;2HO SUNG;2PALI LLA;2O;2HO TAM;1ELLIPSIS;1VOWEL i A;3MAI KAN
  0EB2 3AA;3AM;3I;3II;3Y;3YY;3U;3UU;1i PALI VIRAMA;1VOWEL i MAI KON;1SEMIVOWEL i LO;3NYO
  0EC0 1VOWEL i E;3EI;3O;3AY;3AI
  0EC6 1KO LA
  0EC8 1TONE MAI EK;3THO;3TI;3CATAWA;1CANCELLATION MARK;1NIGGAHITA
  0ED0 1DIGIT ZERO;2ONE;2TWO;2m;2FOUR;2FIVE;2SIX;2SEVEN;2EIGHT;2NINE
  0EDC 1HO NO;2MO;1l KHMU GO;3NYO
  0F00 0TIBETAN SYLLABLE OM;1MARK GTER YIG MGO TRUNCATED A;5-UM RNAM BCAD MA;6GTER TSHEG MA
  0F04 2k YIG MGO MDUN MA;2CLOSING YIG MGO SGAB MA;2CARET YIG MGO PHUR SHAD MA
  0F07 2YIG MGO TSHEG SHAD MA;2SBRUL SHAD;2BSKUR YIG MGO;2BKA- SHOG YIG MGO;2INTERSYLLABIC TSHEG
  0F0C 2DELIMITER TSHEG BSTAR;2SHAD;2NYIS SHAD;2TSHEG SHAD;2NYIS TSHEG SHAD;2RIN CHEN SPUNGS SHAD
  0F12 2RGYA GRAM SHAD;2CARET -DZUD RTAGS ME LONG CAN;2GTER TSHEG;1LOGOTYPE i CHAD RTAGS
  0F16 3LHAG RTAGS;1ASTROLOGICAL i SGRA GCAN -CHAR RTAGS;3-KHYUD PA;3SDONG TSHUGS
  0F1A 1i RDEL DKAR GCIG;4GNYIS;4GSUM;3NAG GCIG;4GNYIS;3DKAR RDEL NAG;1DIGIT ZERO;2ONE;2TWO;2m
  0F24 2FOUR;2FIVE;2SIX;2SEVEN;2EIGHT;2NINE;2HALF ONE;3TWO;3m;3FOUR;3FIVE;3SIX;3SEVEN;3EIGHT;3NINE
  0F33 3ZERO;1MARK BSDUS RTAGS;2NGAS BZUNG NYI ZLA;2CARET -DZUD RTAGS BZHI MIG CAN
  0F37 2NGAS BZUNG SGOR RTAGS;2CHE MGO;2TSA -PHRU;2GUG RTAGS GYON;4GYAS;2ANG KHANG GYON;4GYAS
  0F3E 1i YAR TSHES;2MAR TSHES;1l KA;2KHA;2GA;2GHA;2NGA;2CA;2CHA;2JA
  0F49 2NYA;2TTA;2TTHA;2DDA;2DDHA;2NNA;2TA;2THA;2DA;2DHA;2NA;2PA;2PHA;2BA;2BHA;2MA;2TSA;2TSHA;2DZA
  0F5C 2DZHA;2WA;2ZHA;2ZA;2-A;2YA;2RA;2LA;2SHA;2SSA;2SA;2HA;2A;2KSSA;2FIXED-FORM RA;2KKA;2RRA
  0F71 1VOWEL i AA;3I;3II;3U;3UU;3VOCALIC R;4RR;4L;4LL;3E;3EE;3O;3OO;1i RJES SU NGA RO;2RNAM BCAD
  0F80 1VOWEL i REVERSED I;4II;1i NYI ZLA NAA DA;2SNA LDAN;1MARK HALANTA;2PALUTA;1i LCI RTAGS
  0F87 2YANG RTAGS;2LCE TSA CAN;2MCHU CAN;2GRU CAN RGYINGS;3MED RGYINGS;2INVERTED MCHU CAN
  0F8D 1SUBJOINED i LCE TSA CAN;3MCHU CAN;3INVERTED MCHU CAN;2l KA;3KHA;3GA;3GHA;3NGA;3CA;3CHA;3JA
  0F99 3NYA;3TTA;3TTHA;3DDA;3DDHA;3NNA;3TA;3THA;3DA;3DHA;3NA;3PA;3PHA;3BA;3BHA;3MA;3TSA;3TSHA;3DZA
  0FAC 3DZHA;3WA;3ZHA;3ZA;3-A;3YA;3RA;3LA;3SHA;3SSA;3SA;3HA;3A;3KSSA;3FIXED-FORM WA;4YA;4RA
  0FBE 1KU RU KHA;4BZHI MIG CAN;1CANTILLATION i HEAVY BEAT;3LIGHT BEAT;3CANG TE-U;3SBUB -CHAL
  0FC4 1y DRIL BU;2RDO RJE;2PADMA GDAN;2RDO RJE RGYA GRAM;2PHUR PA;2NOR BU;4NYIS -KHYIL
  0FCB 4GSUM -KHYIL;4BZHI -KHYIL
  0FCE 1i RDEL NAG RDEL DKAR;4GSUM;1MARK BSKA- SHOG GI MGO RGYAN;2MNYAM YIG GI MGO RGYAN
  0FD2 2NYIS TSHEG;2k BRDA RNYING YIG MGO MDUN MA;2CLOSING BRDA RNYING YIG MGO SGAB MA
  0FD5 0RIGHT-FACING SVASTI i;0LEFT-FACING SVASTI i;0RIGHT-FACING SVASTI i w DOTS
  0FD8 0LEFT-FACING SVASTI i w DOTS;0TIBETAN MARK LEADING MCHAN RTAGS;2TRAILING MCHAN RTAGS
  1000 0MYANMAR l KA;2KHA;2GA;2GHA;2NGA;2CA;2CHA;2JA;2JHA;2NYA;2NNYA;2TTA;2TTHA;2DDA;2DDHA;2NNA
  1010 2TA;2THA;2DA;2DHA;2NA;2PA;2PHA;2BA;2BHA;2MA;2YA;2RA;2LA;2WA;2SA;2HA;2LLA;2A;2SHAN A;2I;2II
  1025 2U;2UU;2E;2MON E;2O;2AU;1VOWEL i TALL AA;3AA;3I;3II;3U;3UU;3E;3AI;3MON II;4O;3E b
  1036 1i ANUSVARA;2DOT e;2VISARGA;2VIRAMA;2ASAT;1CONSONANT i MEDIAL YA;4RA;4WA;4HA;1l GREAT SA
  1040 1DIGIT ZERO;2ONE;2TWO;2m;2FOUR;2FIVE;2SIX;2SEVEN;2EIGHT;2NINE;1i LITTLE SECTION;2SECTION
  104C 1y LOCATIVE;2COMPLETED;2AFOREMENTIONED;2GENITIVE;1l SHA;2SSA;2VOCALIC R;3RR;3L;3LL
  1056 1VOWEL i VOCALIC R;4RR;4L;4LL;1l MON NGA;3JHA;3BBA;3BBE;1CONSONANT i MON MEDIAL NA;5MA;5LA
  1061 1l SGAW KAREN SHA;1VOWEL i SGAW KAREN EU;1TONE MARK SGAW KAREN HATHI;5KE PHO
  1065 1l WESTERN PWO KAREN THA;5PWA;1VOWEL i WESTERN PWO KAREN EU;6UE;1i WESTERN PWO KAREN TONE-1
  106A 5TONE-2;5TONE-3;5TONE-4;5TONE-5;1l EASTERN PWO KAREN NNA;5YWA;5GHWA;1VOWEL i GEBA KAREN I
  1072 3KAYAH OE;4U;4EE;1l SHAN KA;3KHA;3GA;3CA;3ZA;3NYA;3DA;3NA;3PHA;3FA;3BA;3THA;3HA
  1082 1CONSONANT i SHAN MEDIAL WA;1VOWEL i SHAN AA;4E;5b;4n Y;1i SHAN TONE-2;3TONE-3;3TONE-5
  108A 3TONE-6;3COUNCIL TONE-2;4TONE-3;4EMPHATIC TONE;1l RUMAI PALAUNG FA;1i RUMAI PALAUNG TONE-5
  1090 1SHAN DIGIT ZERO;3ONE;3TWO;3m;3FOUR;3FIVE;3SIX;3SEVEN;3EIGHT;3NINE;1i KHAMTI TONE-1;3TONE-3
  109C 1VOWEL i AITON A;4AI;1y SHAN ONE;3EXCLAMATION;0GEORGIAN c l AN;3BAN;3GAN;3DON;3EN;3VIN;3ZEN
  10A7 3TAN;3IN;3KAN;3LAS;3MAN;3NAR;3ON;3PAR;3ZHAR;3RAE;3SAN;3TAR;3UN;3PHAR;3KHAR;3GHAN;3QAR;3SHIN
  10B9 3CHIN;3CAN;3JIL;3CIL;3CHAR;3XAN;3JHAN;3HAE;3HE;3HIE;3WE;3HAR;3HOE
  10C7 3YN
  10CD 3AEN
  10D0 1l AN;2BAN;2GAN;2DON;2EN;2VIN;2ZEN;2TAN;2IN;2KAN;2LAS;2MAN;2NAR;2ON;2PAR;2ZHAR;2RAE;2SAN
  10E2 2TAR;2UN;2PHAR;2KHAR;2GHAN;2QAR;2SHIN;2CHIN;2CAN;2JIL;2CIL;2CHAR;2XAN;2JHAN;2HAE;2HE;2HIE
  10F3 2WE;2HAR;2HOE;2FI;2YN;2ELIFI;2TURNED GAN;2AIN;1PARAGRAPH SEPARATOR;0MODIFIER l GEORGIAN NAR
  10FD 0GEORGIAN l AEN;2HARD i;2LABIAL i;0HANGUL CHOSEONG KIYEOK;2SSANGKIYEOK;2NIEUN;2TIKEUT
  1104 2SSANGTIKEUT;2RIEUL;2MIEUM;2PIEUP;2SSANGPIEUP;2SIOS;2SSANGSIOS;2IEUNG;2CIEUC;2SSANGCIEUC
  110E 2CHIEUCH;2KHIEUKH;2THIEUTH;2PHIEUPH;2HIEUH;2NIEUN-KIYEOK;2SSANGNIEUN;2NIEUN-TIKEUT
  1116 2NIEUN-PIEUP;2TIKEUT-KIYEOK;2RIEUL-NIEUN;2SSANGRIEUL;2RIEUL-HIEUH;2KAPYEOUNRIEUL
  111C 2MIEUM-PIEUP;2KAPYEOUNMIEUM;2PIEUP-KIYEOK;2PIEUP-NIEUN;2PIEUP-TIKEUT;2PIEUP-SIOS
  1122 2PIEUP-SIOS-KIYEOK;2PIEUP-SIOS-TIKEUT;2PIEUP-SIOS-PIEUP;2PIEUP-SSANGSIOS;2PIEUP-SIOS-CIEUC
  1127 2PIEUP-CIEUC;2PIEUP-CHIEUCH;2PIEUP-THIEUTH;2PIEUP-PHIEUPH;2KAPYEOUNPIEUP
  112C 2KAPYEOUNSSANGPIEUP;2SIOS-KIYEOK;2SIOS-NIEUN;2SIOS-TIKEUT;2SIOS-RIEUL;2SIOS-MIEUM
  1132 2SIOS-PIEUP;2SIOS-PIEUP-KIYEOK;2SIOS-SSANGSIOS;2SIOS-IEUNG;2SIOS-CIEUC;2SIOS-CHIEUCH
  1138 2SIOS-KHIEUKH;2SIOS-THIEUTH;2SIOS-PHIEUPH;2SIOS-HIEUH;2CHITUEUMSIOS;2CHITUEUMSSANGSIOS
  113E 2CEONGCHIEUMSIOS;2CEONGCHIEUMSSANGSIOS;2PANSIOS;2IEUNG-KIYEOK;2IEUNG-TIKEUT;2IEUNG-MIEUM
  1144 2IEUNG-PIEUP;2IEUNG-SIOS;2IEUNG-PANSIOS;2SSANGIEUNG;2IEUNG-CIEUC;2IEUNG-CHIEUCH
  114A 2IEUNG-THIEUTH;2IEUNG-PHIEUPH;2YESIEUNG;2CIEUC-IEUNG;2CHITUEUMCIEUC;2CHITUEUMSSANGCIEUC
  1150 2CEONGCHIEUMCIEUC;2CEONGCHIEUMSSANGCIEUC;2CHIEUCH-KHIEUKH;2CHIEUCH-HIEUH;2CHITUEUMCHIEUCH
  1155 2CEONGCHIEUMCHIEUCH;2PHIEUPH-PIEUP;2KAPYEOUNPHIEUPH;2SSANGHIEUH;2YEORINHIEUH;2KIYEOK-TIKEUT
  115B 2NIEUN-SIOS;2NIEUN-CIEUC;2NIEUN-HIEUH;2TIKEUT-RIEUL;2FILLER;1JUNGSEONG FILLER;2A;2AE;2YA
  1164 2YAE;2EO;2E;2YEO;2YE;2O;2WA;2WAE;2OE;2YO;2U;2WEO;2WE;2WI;2YU;2EU;2YI;2I;2A-O;2A-U;2YA-O
  1179 2YA-YO;2EO-O;2EO-U;2EO-EU;2YEO-O;2YEO-U;2O-EO;2O-E;2O-YE;2O-O;2O-U;2YO-YA;2YO-YAE;2YO-YEO
  1187 2YO-O;2YO-I;2U-A;2U-AE;2U-EO-EU;2U-YE;2U-U;2YU-A;2YU-EO;2YU-E;2YU-YEO;2YU-YE;2YU-U;2YU-I
  1195 2EU-U;2EU-EU;2YI-U;2I-A;2I-YA;2I-O;2I-U;2I-EU;2I-ARAEA;2ARAEA;2ARAEA-EO;2ARAEA-U;2ARAEA-I
  11A2 2SSANGARAEA;2A-EU;2YA-U;2YEO-YA;2O-YA;2O-YAE;1JONGSEONG KIYEOK;2SSANGKIYEOK;2KIYEOK-SIOS
  11AB 2NIEUN;2NIEUN-CIEUC;2NIEUN-HIEUH;2TIKEUT;2RIEUL;2RIEUL-KIYEOK;2RIEUL-MIEUM;2RIEUL-PIEUP
  11B3 2RIEUL-SIOS;2RIEUL-THIEUTH;2RIEUL-PHIEUPH;2RIEUL-HIEUH;2MIEUM;2PIEUP;2PIEUP-SIOS;2SIOS
  11BB 2SSANGSIOS;2IEUNG;2CIEUC;2CHIEUCH;2KHIEUKH;2THIEUTH;2PHIEUPH;2HIEUH;2KIYEOK-RIEUL
  11C4 2KIYEOK-SIOS-KIYEOK;2NIEUN-KIYEOK;2NIEUN-TIKEUT;2NIEUN-SIOS;2NIEUN-PANSIOS;2NIEUN-THIEUTH
  11CA 2TIKEUT-KIYEOK;2TIKEUT-RIEUL;2RIEUL-KIYEOK-SIOS;2RIEUL-NIEUN;2RIEUL-TIKEUT
  11CF 2RIEUL-TIKEUT-HIEUH;2SSANGRIEUL;2RIEUL-MIEUM-KIYEOK;2RIEUL-MIEUM-SIOS;2RIEUL-PIEUP-SIOS
  11D4 2RIEUL-PIEUP-HIEUH;2RIEUL-KAPYEOUNPIEUP;2RIEUL-SSANGSIOS;2RIEUL-PANSIOS;2RIEUL-KHIEUKH
  11D9 2RIEUL-YEORINHIEUH;2MIEUM-KIYEOK;2MIEUM-RIEUL;2MIEUM-PIEUP;2MIEUM-SIOS;2MIEUM-SSANGSIOS
  11DF 2MIEUM-PANSIOS;2MIEUM-CHIEUCH;2MIEUM-HIEUH;2KAPYEOUNMIEUM;2PIEUP-RIEUL;2PIEUP-PHIEUPH
  11E5 2PIEUP-HIEUH;2KAPYEOUNPIEUP;2SIOS-KIYEOK;2SIOS-TIKEUT;2SIOS-RIEUL;2SIOS-PIEUP;2PANSIOS
  11EC 2IEUNG-KIYEOK;2IEUNG-SSANGKIYEOK;2SSANGIEUNG;2IEUNG-KHIEUKH;2YESIEUNG;2YESIEUNG-SIOS
  11F2 2YESIEUNG-PANSIOS;2PHIEUPH-PIEUP;2KAPYEOUNPHIEUPH;2HIEUH-NIEUN;2HIEUH-RIEUL;2HIEUH-MIEUM
  11F8 2HIEUH-PIEUP;2YEORINHIEUH;2KIYEOK-NIEUN;2KIYEOK-PIEUP;2KIYEOK-CHIEUCH;2KIYEOK-KHIEUKH
  11FE 2KIYEOK-HIEUH;2SSANGNIEUN;0ETHIOPIC SYLLABLE HA;2HU;2HI;2HAA;2HEE;2HE;2HO;2HOA;2LA;2LU;2LI
  120B 2LAA;2LEE;2LE;2LO;2LWA;2HHA;2HHU;2HHI;2HHAA;2HHEE;2HHE;2HHO;2HHWA;2MA;2MU;2MI;2MAA;2MEE;2ME
  121E 2MO;2MWA;2SZA;2SZU;2SZI;2SZAA;2SZEE;2SZE;2SZO;2SZWA;2RA;2RU;2RI;2RAA;2REE;2RE;2RO;2RWA;2SA
  1231 2SU;2SI;2SAA;2SEE;2SE;2SO;2SWA;2SHA;2SHU;2SHI;2SHAA;2SHEE;2SHE;2SHO;2SHWA;2QA;2QU;2QI;2QAA
  1244 2QEE;2QE;2QO;2QOA;2QWA
  124A 2QWI;2QWAA;2QWEE;2QWE
  1250 2QHA;2QHU;2QHI;2QHAA;2QHEE;2QHE;2QHO
  1258 2QHWA
  125A 2QHWI;2QHWAA;2QHWEE;2QHWE
  1260 2BA;2BU;2BI;2BAA;2BEE;2BE;2BO;2BWA;2VA;2VU;2VI;2VAA;2VEE;2VE;2VO;2VWA;2TA;2TU;2TI;2TAA;2TEE
  1275 2TE;2TO;2TWA;2CA;2CU;2CI;2CAA;2CEE;2CE;2CO;2CWA;2XA;2XU;2XI;2XAA;2XEE;2XE;2XO;2XOA;2XWA
  128A 2XWI;2XWAA;2XWEE;2XWE
  1290 2NA;2NU;2NI;2NAA;2NEE;2NE;2NO;2NWA;2NYA;2NYU;2NYI;2NYAA;2NYEE;2NYE;2NYO;2NYWA;2GLOTTAL A;3U
  12A2 3I;3AA;3EE;3E;3O;3WA;2KA;2KU;2KI;2KAA;2KEE;2KE;2KO;2KOA;2KWA
  12B2 2KWI;2KWAA;2KWEE;2KWE
  12B8 2KXA;2KXU;2KXI;2KXAA;2KXEE;2KXE;2KXO
  12C0 2KXWA
  12C2 2KXWI;2KXWAA;2KXWEE;2KXWE
  12C8 2WA;2WU;2WI;2WAA;2WEE;2WE;2WO;2WOA;2PHARYNGEAL A;3U;3I;3AA;3EE;3E;3O
  12D8 2ZA;2ZU;2ZI;2ZAA;2ZEE;2ZE;2ZO;2ZWA;2ZHA;2ZHU;2ZHI;2ZHAA;2ZHEE;2ZHE;2ZHO;2ZHWA;2YA;2YU;2YI
  12EB 2YAA;2YEE;2YE;2YO;2YOA;2DA;2DU;2DI;2DAA;2DEE;2DE;2DO;2DWA;2DDA;2DDU;2DDI;2DDAA;2DDEE;2DDE
  12FE 2DDO;2DDWA;2JA;2JU;2JI;2JAA;2JEE;2JE;2JO;2JWA;2GA;2GU;2GI;2GAA;2GEE;2GE;2GO;2GOA;2GWA
  1312 2GWI;2GWAA;2GWEE;2GWE
  1318 2GGA;2GGU;2GGI;2GGAA;2GGEE;2GGE;2GGO;2GGWAA;2THA;2THU;2THI;2THAA;2THEE;2THE;2THO;2THWA;2CHA
  1329 2CHU;2CHI;2CHAA;2CHEE;2CHE;2CHO;2CHWA;2PHA;2PHU;2PHI;2PHAA;2PHEE;2PHE;2PHO;2PHWA;2TSA;2TSU
  133A 2TSI;2TSAA;2TSEE;2TSE;2TSO;2TSWA;2TZA;2TZU;2TZI;2TZAA;2TZEE;2TZE;2TZO;2TZOA;2FA;2FU;2FI
  134B 2FAA;2FEE;2FE;2FO;2FWA;2PA;2PU;2PI;2PAA;2PEE;2PE;2PO;2PWA;2RYA;2MYA;2FYA
  135D 1COMBINING GEMINATION h VOWEL LENGTH MARK;2VOWEL LENGTH MARK;2GEMINATION MARK;1SECTION MARK
  1361 1WORDSPACE;1FULL STOP;1COMMA;1SEMICOLON;1COLON;1PREFACE COLON;1QUESTION MARK
  1368 1PARAGRAPH SEPARATOR;1DIGIT ONE;2TWO;2m;2FOUR;2FIVE;2SIX;2SEVEN;2EIGHT;2NINE;1NUMBER TEN
  1373 2TWENTY;2THIRTY;2FORTY;2FIFTY;2SIXTY;2SEVENTY;2EIGHTY;2NINETY;2HUNDRED;2TEN THOUSAND
  1380 1SYLLABLE SEBATBEIT MWA;2MWI;2MWEE;2MWE;2SEBATBEIT BWA;2BWI;2BWEE;2BWE;2SEBATBEIT FWA;2FWI
  138A 2FWEE;2FWE;2SEBATBEIT PWA;2PWI;2PWEE;2PWE;1TONAL MARK YIZET;3DERET;3RIKRIK;3SHORT RIKRIK
  1394 3DIFAT;3KENAT;3CHIRET;3HIDET;3DERET-HIDET;3KURT
  13A0 0CHEROKEE l A;2E;2I;2O;2U;2V;2GA;2KA;2GE;2GI;2GO;2GU;2GV;2HA;2HE;2HI;2HO;2HU;2HV;2LA;2LE
  13B5 2LI;2LO;2LU;2LV;2MA;2ME;2MI;2MO;2MU;2NA;2HNA;2NAH;2NE;2NI;2NO;2NU;2NV;2QUA;2QUE;2QUI;2QUO
  13CA 2QUU;2QUV;2SA;2S;2SE;2SI;2SO;2SU;2SV;2DA;2TA;2DE;2TE;2DI;2TI;2DO;2DU;2DV;2DLA;2TLA;2TLE
  13DF 2TLI;2TLO;2TLU;2TLV;2TSA;2TSE;2TSI;2TSO;2TSU;2TSV;2WA;2WE;2WI;2WO;2WU;2WV;2YA;2YE;2YI;2YO
  13F3 2YU;2YV;2MV
  13F8 1s l YE;3YI;3YO;3YU;3YV;3MV
  1400 0CANADIAN SYLLABICS HYPHEN;2E;2AAI;2I;2II;2O;2OO;2Y-CREE OO;2CARRIER EE;3I;2A;2AA;2WE
  140D 2WEST-CREE WE;2WI;2WEST-CREE WI;2WII;2WEST-CREE WII;2WO;2WEST-CREE WO;2WOO;2WEST-CREE WOO
  1416 2NASKAPI WOO;2WA;2WEST-CREE WA;2WAA;2WEST-CREE WAA;2NASKAPI WAA;2AI;2Y-CREE W;2GLOTTAL STOP
  141F 2n ACUTE;3GRAVE;3BOTTOM HALF RING;3TOP HALF RING;3r HALF RING;3RING;3d ACUTE
  1426 4SHORT v STROKES;3MIDDLE DOT;3SHORT z q;3PLUS;3DOWN TACK;2EN;2IN;2ON;2AN;2PE;2PAAI;2PI;2PII
  1433 2PO;2POO;2Y-CREE POO;2CARRIER HEE;3HI;2PA;2PAA;2PWE;2WEST-CREE PWE;2PWI;2WEST-CREE PWI
  143E 2PWII;2WEST-CREE PWII;2PWO;2WEST-CREE PWO;2PWOO;2WEST-CREE PWOO;2PWA;2WEST-CREE PWA;2PWAA
  1447 2WEST-CREE PWAA;2Y-CREE PWAA;2P;2WEST-CREE P;2CARRIER H;2TE;2TAAI;2TI;2TII;2TO;2TOO
  1452 2Y-CREE TOO;2CARRIER DEE;3DI;2TA;2TAA;2TWE;2WEST-CREE TWE;2TWI;2WEST-CREE TWI;2TWII
  145C 2WEST-CREE TWII;2TWO;2WEST-CREE TWO;2TWOO;2WEST-CREE TWOO;2TWA;2WEST-CREE TWA;2TWAA
  1464 2WEST-CREE TWAA;2NASKAPI TWAA;2T;2TTE;2TTI;2TTO;2TTA;2KE;2KAAI;2KI;2KII;2KO;2KOO
  1471 2Y-CREE KOO;2KA;2KAA;2KWE;2WEST-CREE KWE;2KWI;2WEST-CREE KWI;2KWII;2WEST-CREE KWII;2KWO
  147B 2WEST-CREE KWO;2KWOO;2WEST-CREE KWOO;2KWA;2WEST-CREE KWA;2KWAA;2WEST-CREE KWAA
  1482 2NASKAPI KWAA;2K;2KW;2SOUTH-SLAVEY KEH;3KIH;3KOH;3KAH;2CE;2CAAI;2CI;2CII;2CO;2COO
  148F 2Y-CREE COO;2CA;2CAA;2CWE;2WEST-CREE CWE;2CWI;2WEST-CREE CWI;2CWII;2WEST-CREE CWII;2CWO
  1499 2WEST-CREE CWO;2CWOO;2WEST-CREE CWOO;2CWA;2WEST-CREE CWA;2CWAA;2WEST-CREE CWAA
  14A0 2NASKAPI CWAA;2C;2SAYISI TH;2ME;2MAAI;2MI;2MII;2MO;2MOO;2Y-CREE MOO;2MA;2MAA;2MWE
  14AD 2WEST-CREE MWE;2MWI;2WEST-CREE MWI;2MWII;2WEST-CREE MWII;2MWO;2WEST-CREE MWO;2MWOO
  14B5 2WEST-CREE MWOO;2MWA;2WEST-CREE MWA;2MWAA;2WEST-CREE MWAA;2NASKAPI MWAA;2M;2WEST-CREE M;2MH
  14BE 2ATHAPASCAN M;2SAYISI M;2NE;2NAAI;2NI;2NII;2NO;2NOO;2Y-CREE NOO;2NA;2NAA;2NWE
  14CA 2WEST-CREE NWE;2NWA;2WEST-CREE NWA;2NWAA;2WEST-CREE NWAA;2NASKAPI NWAA;2N;2CARRIER NG;2NH
  14D3 2LE;2LAAI;2LI;2LII;2LO;2LOO;2Y-CREE LOO;2LA;2LAA;2LWE;2WEST-CREE LWE;2LWI;2WEST-CREE LWI
  14E0 2LWII;2WEST-CREE LWII;2LWO;2WEST-CREE LWO;2LWOO;2WEST-CREE LWOO;2LWA;2WEST-CREE LWA;2LWAA
  14E9 2WEST-CREE LWAA;2L;2WEST-CREE L;2MEDIAL L;2SE;2SAAI;2SI;2SII;2SO;2SOO;2Y-CREE SOO;2SA;2SAA
  14F6 2SWE;2WEST-CREE SWE;2SWI;2WEST-CREE SWI;2SWII;2WEST-CREE SWII;2SWO;2WEST-CREE SWO;2SWOO
  14FF 2WEST-CREE SWOO;2SWA;2WEST-CREE SWA;2SWAA;2WEST-CREE SWAA;2NASKAPI SWAA;2S;2ATHAPASCAN S
  1507 2SW;2BLACKFOOT S;2MOOSE-CREE SK;2NASKAPI SKW;3S-W;3SPWA;3STWA;3SKWA;3SCWA;2SHE;2SHI;2SHII
  1513 2SHO;2SHOO;2SHA;2SHAA;2SHWE;2WEST-CREE SHWE;2SHWI;2WEST-CREE SHWI;2SHWII;2WEST-CREE SHWII
  151D 2SHWO;2WEST-CREE SHWO;2SHWOO;2WEST-CREE SHWOO;2SHWA;2WEST-CREE SHWA;2SHWAA;2WEST-CREE SHWAA
  1525 2SH;2YE;2YAAI;2YI;2YII;2YO;2YOO;2Y-CREE YOO;2YA;2YAA;2YWE;2WEST-CREE YWE;2YWI
  1532 2WEST-CREE YWI;2YWII;2WEST-CREE YWII;2YWO;2WEST-CREE YWO;2YWOO;2WEST-CREE YWOO;2YWA
  153A 2WEST-CREE YWA;2YWAA;2WEST-CREE YWAA;2NASKAPI YWAA;2Y;2BIBLE-CREE Y;2WEST-CREE Y;2SAYISI YI
  1542 2RE;2R-CREE RE;2WEST-CREE LE;2RAAI;2RI;2RII;2RO;2ROO;2WEST-CREE LO;2RA;2RAA;2WEST-CREE LA
  154E 2RWAA;2WEST-CREE RWAA;2R;2WEST-CREE R;2MEDIAL R;2FE;2FAAI;2FI;2FII;2FO;2FOO;2FA;2FAA;2FWAA
  155C 2WEST-CREE FWAA;2F;2THE;2N-CREE THE;2THI;2N-CREE THI;2THII;2N-CREE THII;2THO;2THOO;2THA
  1567 2THAA;2THWAA;2WEST-CREE THWAA;2TH;2TTHE;2TTHI;2TTHO;2TTHA;2TTH;2TYE;2TYI;2TYO;2TYA
  1574 2NUNAVIK HE;3HI;3HII;3HO;3HOO;3HA;3HAA;3H;2NUNAVUT H;2HK;2QAAI;2QI;2QII;2QO;2QOO;2QA;2QAA
  1585 2Q;2TLHE;2TLHI;2TLHO;2TLHA;2WEST-CREE RE;3RI;3RO;3RA;2NGAAI;2NGI;2NGII;2NGO;2NGOO;2NGA
  1594 2NGAA;2NG;2NNG;2SAYISI SHE;3SHI;3SHO;3SHA;2WOODS-CREE THE;3THI;3THO;3THA;3TH;2LHI;2LHII
  15A2 2LHO;2LHOO;2LHA;2LHAA;2LH;2TH-CREE THE;3THI;3THII;3THO;3THOO;3THA;3THAA;3TH;2AIVILIK B
  15B0 2BLACKFOOT E;3I;3O;3A;3WE;3WI;3WO;3WA;3NE;3NI;3NO;3NA;3KE;3KI;3KO;3KA;2SAYISI HE;3HI;3HO
  15C3 3HA;2CARRIER GHU;3GHO;3GHE;3GHEE;3GHI;3GHA;3RU;3RO;3RE;3REE;3RI;3RA;3WU;3WO;3WE;3WEE;3WI
  15D5 3WA;3HWU;3HWO;3HWE;3HWEE;3HWI;3HWA;3THU;3THO;3THE;3THEE;3THI;3THA;3TTU;3TTO;3TTE;3TTEE;3TTI
  15E7 3TTA;3PU;3PO;3PE;3PEE;3PI;3PA;3P;3GU;3GO;3GE;3GEE;3GI;3GA;3KHU;3KHO;3KHE;3KHEE;3KHI;3KHA
  15FB 3KKU;3KKO;3KKE;3KKEE;3KKI;3KKA;3KK;3NU;3NO;3NE;3NEE;3NI;3NA;3MU;3MO;3ME;3MEE;3MI;3MA;3YU
  160F 3YO;3YE;3YEE;3YI;3YA;3JU;2SAYISI JU;2CARRIER JO;3JE;3JEE;3JI;2SAYISI JI;2CARRIER JA;3JJU
  161D 3JJO;3JJE;3JJEE;3JJI;3JJA;3LU;3LO;3LE;3LEE;3LI;3LA;3DLU;3DLO;3DLE;3DLEE;3DLI;3DLA;3LHU;3LHO
  1630 3LHE;3LHEE;3LHI;3LHA;3TLHU;3TLHO;3TLHE;3TLHEE;3TLHI;3TLHA;3TLU;3TLO;3TLE;3TLEE;3TLI;3TLA
  1640 3ZU;3ZO;3ZE;3ZEE;3ZI;3ZA;3Z;3k Z;3DZU;3DZO;3DZE;3DZEE;3DZI;3DZA;3SU;3SO;3SE;3SEE;3SI;3SA
  1654 3SHU;3SHO;3SHE;3SHEE;3SHI;3SHA;3SH;3TSU;3TSO;3TSE;3TSEE;3TSI;3TSA;3CHU;3CHO;3CHE;3CHEE;3CHI
  1666 3CHA;3TTSU;3TTSO;3TTSE;3TTSEE;3TTSI;3TTSA;2CHI i;2FULL STOP;2QAI;2NGAI;2NNGI;2NNGII;2NNGO
  1674 2NNGOO;2NNGA;2NNGAA;2WOODS-CREE THWEE;3THWI;3THWII;3THWO;3THWOO;3THWA;3THWAA;3n TH
  167F 2BLACKFOOT W;0OGHAM SPACE MARK;1l BEITH;2LUIS;2FEARN;2SAIL;2NION;2UATH;2DAIR;2TINNE;2COLL
  168A 2CEIRT;2MUIN;2GORT;2NGEADAL;2STRAIF;2RUIS;2AILM;2ONN;2UR;2EADHADH;2IODHADH;2EABHADH;2OR
  1697 2UILLEANN;2IFIN;2EAMHANCHOLL;2PEITH;1FEATHER MARK;1REVERSED FEATHER MARK
  16A0 0RUNIC l FEHU FEOH FE F;2V;2URUZ UR U;2YR;2Y;2W;2THURISAZ THURS THORN;2ETH;2ANSUZ A;2OS O
  16AA 2AC A;2AESC;2LONG-BRANCH-OSS O;2SHORT-TWIG-OSS O;2O;2OE;2ON;2RAIDO RAD REID R;2KAUNA;2CEN
  16B4 2KAUN K;2G;2ENG;2GEBO GYFU G;2GAR;2WUNJO WYNN W;2HAGLAZ H;2HAEGL H;2LONG-BRANCH-HAGALL H
  16BD 2SHORT-TWIG-HAGALL H;2NAUDIZ NYD NAUD N;2SHORT-TWIG-NAUD N;2DOTTED-N;2ISAZ IS ISS I;2E
  16C3 2JERAN J;2GER;2LONG-BRANCH-AR AE;2SHORT-TWIG-AR A;2IWAZ EOH;2PERTHO PEORTH P;2ALGIZ EOLHX
  16CA 2SOWILO S;2SIGEL LONG-BRANCH-SOL S;2SHORT-TWIG-SOL S;2C;2Z;2TIWAZ TIR TYR T
  16D0 2SHORT-TWIG-TYR T;2D;2BERKANAN BEORC BJARKAN B;2SHORT-TWIG-BJARKAN B;2DOTTED-P;2OPEN-P
  16D6 2EHWAZ EH E;2MANNAZ MAN M;2LONG-BRANCH-MADR M;2SHORT-TWIG-MADR M;2LAUKAZ LAGU LOGR L
  16DB 2DOTTED-L;2INGWAZ;2ING;2DAGAZ DAEG D;2OTHALAN ETHEL O;2EAR;2IOR;2CWEORTH;2CALC;2CEALC;2STAN
  16E6 2LONG-BRANCH-YR;2SHORT-TWIG-YR;2ICELANDIC-YR;2Q;2X;1SINGLE PUNCTUATION
  16EC 1MULTIPLE PUNCTUATION;1CROSS PUNCTUATION;1ARLAUG y;1TVIMADUR y;1BELGTHOR y;1l K;2SH;2OO
  16F4 2FRANKS CASKET OS;4IS;4EH;4AC;4AESC
  1700 0TAGALOG l A;2I;2U;2KA;2GA;2NGA;2TA;2DA;2NA;2PA;2BA;2MA;2YA;2RA;2LA;2WA;2SA;2HA;1VOWEL i I
  1713 3U;1i VIRAMA;2PAMUDPOD
  171F 1l ARCHAIC RA;0HANUNOO l A;2I;2U;2KA;2GA;2NGA;2TA;2DA;2NA;2PA;2BA;2MA;2YA;2RA;2LA;2WA;2SA
  1731 2HA;1VOWEL i I;3U;1i PAMUDPOD;0PHILIPPINE SINGLE PUNCTUATION;1d PUNCTUATION
  1740 0BUHID l A;2I;2U;2KA;2GA;2NGA;2TA;2DA;2NA;2PA;2BA;2MA;2YA;2RA;2LA;2WA;2SA;2HA;1VOWEL i I;3U
  1760 0TAGBANWA l A;2I;2U;2KA;2GA;2NGA;2TA;2DA;2NA;2PA;2BA;2MA;2YA
  176E 2LA;2WA;2SA
  1772 1VOWEL i I;3U
  1780 0KHMER l KA;2KHA;2KO;2KHO;2NGO;2CA;2CHA;2CO;2CHO;2NYO;2DA;2TTHA;2DO;2TTHO;2NNO;2TA;2THA;2TO
  1792 2THO;2NO;2BA;2PHA;2PO;2PHO;2MO;2YO;2RO;2LO;2VO;2SHA;2SSO;2SA;2HA;2LA;2QA
  17A3 1INDEPENDENT VOWEL QAQ;3QAA;3QI;3QII;3QU;3QUK;3QUU;3QUUV;3RY;3RYY;3LY;3LYY;3QE;3QAI
  17B1 3QOO TYPE ONE;5TWO;3QAU;1VOWEL INHERENT AQ;3AA;2i AA;3I;3II;3Y;3YY;3U;3UU;3UA;3OE;3YA;3IE
  17C1 3E;3AE;3AI;3OO;3AU;1i NIKAHIT;2REAHMUK;2YUUKALEAPINTU;2MUUSIKATOAN;2TRIISAP;2BANTOC;2ROBAT
  17CD 2TOANDAKHIAT;2KAKABAT;2AHSDA;2SAMYOK SANNYA;2VIRIAM;2COENG;2BATHAMASAT;2KHAN;2BARIYOOSAN
  17D6 2CAMNUC PII KUUH;2LEK TOO;2BEYYAL;2PHNAEK MUAN;2KOOMUUT;1CURRENCY y RIEL;1i AVAKRAHASANYA
  17DD 2ATTHACAN
  17E0 1DIGIT ZERO;2ONE;2TWO;2m;2FOUR;2FIVE;2SIX;2SEVEN;2EIGHT;2NINE
  17F0 1y LEK ATTAK SON;4MUOY;4PII;4BEI;4BUON;4PRAM;4PRAM-MUOY;4PRAM-PII;4PRAM-BEI;4PRAM-BUON
  1800 0MONGOLIAN BIRGA;1ELLIPSIS;1COMMA;1FULL STOP;1COLON;1FOUR DOTS;1TODO SOFT HYPHEN
  1807 1SIBE SYLLABLE BOUNDARY MARKER;1MANCHU COMMA;2FULL STOP;1NIRUGU
  180B 1FREE VARIATION SELECTOR ONE;4TWO;4m;1VOWEL SEPARATOR;1FREE VARIATION SELECTOR FOUR
  1810 1DIGIT ZERO;2ONE;2TWO;2m;2FOUR;2FIVE;2SIX;2SEVEN;2EIGHT;2NINE
  1820 1l A;2E;2I;2O;2U;2OE;2UE;2EE;2NA;2ANG;2BA;2PA;2QA;2GA;2MA;2LA;2SA;2SHA;2TA;2DA;2CHA;2JA;2YA
  1837 2RA;2WA;2FA;2KA;2KHA;2TSA;2ZA;2HAA;2ZRA;2LHA;2ZHI;2CHI;2TODO LONG VOWEL i;3E;3I;3O;3U;3OE
  1849 3UE;3ANG;3BA;3PA;3QA;3GA;3MA;3TA;3DA;3CHA;3JA;3TSA;3YA;3WA;3KA;3GAA;3HAA;3JIA;3NIA;3DZA
  185D 2SIBE E;3I;3IY;3UE;3U;3ANG;3KA;3GA;3HA;3PA;3SHA;3TA;3DA;3JA;3FA;3GAA;3HAA;3TSA;3ZA;3RAA
  1871 3CHA;3ZHA;2MANCHU I;3KA;3RA;3FA;3ZHA;2CHA w TWO DOTS
  1880 2ALI GALI ANUSVARA ONE;4VISARGA ONE;4DAMARU;4UBADAMA;4INVERTED UBADAMA;4BALUDA;4m BALUDA;4A
  1888 4I;4KA;4NGA;4CA;4TTA;4TTHA;4DDA;4NNA;4TA;4DA;4PA;4PHA;4SSA;4ZHA;4ZA;4AH;2TODO ALI GALI TA
  1899 5ZHA;2MANCHU ALI GALI GHA;5NGA;5CA;5JHA;5TTA;5DDHA;5TA;5DHA;5SSA;5CYA;5ZHA;5ZA
  18A6 2ALI GALI HALF U;5YA;2MANCHU ALI GALI BHA;2ALI GALI DAGALGA;2MANCHU ALI GALI LHA
  18B0 0CANADIAN SYLLABICS OY;2AY;2AAY;2WAY;2POY;2PAY;2PWOY;2TAY;2KAY;2KWAY;2MAY;2NOY;2NAY;2LAY
  18BE 2SOY;2SAY;2SHOY;2SHAY;2SHWOY;2YOY;2YAY;2RAY;2NWI;2OJIBWAY NWI;2NWII;2OJIBWAY NWII;2NWO
  18CB 2OJIBWAY NWO;2NWOO;2OJIBWAY NWOO;2RWEE;2RWI;2RWII;2RWO;2RWOO;2RWA;2OJIBWAY P;3T;3K;3C;3M;3N
  18DA 3S;3SH;2EASTERN W;2WESTERN W;2n s RING;3RAISED DOT;2R-CREE RWE;2WEST-CREE LOO;3LAA;2THWE
  18E4 2THWA;2TTHWE;2TTHOO;2TTHAA;2TLHWE;2TLHOO;2SAYISI SHWE;3SHOO;3HOO;2CARRIER GWU;3DENE GEE
  18EF 3GAA;3GWA;2SAYISI JUU;2CARRIER JWA;2BEAVER DENE L;4R;2CARRIER DENTAL S
  1900 0LIMBU VOWEL-CARRIER l;1l KA;2KHA;2GA;2GHA;2NGA;2CA;2CHA;2JA;2JHA;2YAN;2TA;2THA;2DA;2DHA
  190F 2NA;2PA;2PHA;2BA;2BHA;2MA;2YA;2RA;2LA;2WA;2SHA;2SSA;2SA;2HA;2GYAN;2TRA
  1920 1VOWEL i A;3I;3U;3EE;3AI;3OO;3AU;3E;3O;1SUBJOINED l YA;3RA;3WA
  1930 1s l KA;3NGA;3ANUSVARA;3TA;3NA;3PA;3MA;3RA;3LA;1i MUKPHRENG;2KEMPHRENG;2SA-I
  1940 2LOO
  1944 1EXCLAMATION MARK;1QUESTION MARK;1DIGIT ZERO;2ONE;2TWO;2m;2FOUR;2FIVE;2SIX;2SEVEN;2EIGHT
  194F 2NINE;0TAI LE l KA;3XA;3NGA;3TSA;3SA;3YA;3TA;3THA;3LA;3PA;3PHA;3MA;3FA;3VA;3HA;3QA;3KHA
  1961 3TSHA;3NA;3A;3I;3EE;3EH;3U;3OO;3O;3UE;3E;3AUE;3AI
  1970 3TONE-2;3TONE-3;3TONE-4;3TONE-5;3TONE-6
  1980 0NEW TAI LUE l HIGH QA;4LOW QA;4HIGH KA;5XA;5NGA;4LOW KA;5XA;5NGA;4HIGH TSA;5SA;5YA
  198B 4LOW TSA;5SA;5YA;4HIGH TA;5THA;5NA;4LOW TA;5THA;5NA;4HIGH PA;5PHA;5MA;4LOW PA;5PHA;5MA
  199A 4HIGH FA;5VA;5LA;4LOW FA;5VA;5LA;4HIGH HA;5DA;5BA;4LOW HA;5DA;5BA;4HIGH KVA;5XVA;4LOW KVA
  19A9 5XVA;4HIGH SUA;4LOW SUA
  19B0 3VOWEL i VOWEL SHORTENER;5AA;5II;5U;5UU;5E;5AE;5O;5OA;5UE;5AY;5AAY;5UY;5OY;5OAY;5UEY;5IY
  19C1 3l n V;5NG;5N;5M;5K;5D;5B;3TONE MARK-1;4MARK-2
  19D0 3DIGIT ZERO;4ONE;4TWO;4m;4FOUR;4FIVE;4SIX;4SEVEN;4EIGHT;4NINE;3THAM DIGIT ONE
  19DE 3i LAE;4LAEV;0KHMER y PATHAMASAT;2MUOY KOET;2PII KOET;2BEI KOET;2BUON KOET;2PRAM KOET
  19E6 2PRAM-MUOY KOET;2PRAM-PII KOET;2PRAM-BEI KOET;2PRAM-BUON KOET;2DAP KOET;2DAP-MUOY KOET
  19EC 2DAP-PII KOET;2DAP-BEI KOET;2DAP-BUON KOET;2DAP-PRAM KOET;2TUTEYASAT;2MUOY ROC;2PII ROC
  19F3 2BEI ROC;2BUON ROC;2PRAM ROC;2PRAM-MUOY ROC;2PRAM-PII ROC;2PRAM-BEI ROC;2PRAM-BUON ROC
  19FA 2DAP ROC;2DAP-MUOY ROC;2DAP-PII ROC;2DAP-BEI ROC;2DAP-BUON ROC;2DAP-PRAM ROC;0BUGINESE l KA
  1A01 2GA;2NGA;2NGKA;2PA;2BA;2MA;2MPA;2TA;2DA;2NA;2NRA;2CA;2JA;2NYA;2NYCA;2YA;2RA;2LA;2VA;2SA;2A
  1A16 2HA;1VOWEL i I;3U;3E;3O;3AE
  1A1E 1PALLAWA;1END OF SECTION;0TAI THAM l HIGH KA;4KHA;4KXA;3LOW KA;4KXA;4KHA;3NGA;3HIGH CA;4CHA
  1A29 3LOW CA;4SA;4CHA;3NYA;3RATA;3HIGH RATHA;3DA;3LOW RATHA;3RANA;3HIGH TA;4THA;3LOW TA;4THA;3NA
  1A37 3BA;3HIGH PA;4PHA;4FA;3LOW PA;4FA;4PHA;3MA;3LOW YA;3HIGH YA;3RA;3RUE;3LA;3LUE;3WA;3HIGH SHA
  1A47 4SSA;4SA;4HA;3LLA;3A;3LOW HA;3I;3II;3U;3UU;3EE;3OO;3LAE;3GREAT SA;2CONSONANT i MEDIAL RA
  1A56 5LA;4LA TANG LAI;2i MAI KANG LAI;2CONSONANT i n NGA;4LOW PA;4HIGH RATHA OR LOW PA;4MA;4BA
  1A5E 4SA
  1A60 2i SAKOT;2VOWEL i A;4MAI SAT;4AA;4TALL AA;4I;4II;4UE;4UUE;4U;4UU;4O;4OA e;4OY;4E;4AE;4OO
  1A71 4AI;4THAM AI;4OA b;2i MAI KANG;3TONE-1;3TONE-2;3KHUEN TONE-3;4TONE-4;4TONE-5;3RA HAAM
  1A7B 3MAI SAM;3KHUEN-LUE KARAN
  1A7F 2COMBINING CRYPTOGRAMMIC DOT;2HORA DIGIT ZERO;4ONE;4TWO;4m;4FOUR;4FIVE;4SIX;4SEVEN;4EIGHT
  1A89 4NINE
  1A90 2THAM DIGIT ZERO;4ONE;4TWO;4m;4FOUR;4FIVE;4SIX;4SEVEN;4EIGHT;4NINE
  1AA0 2i WIANG;3WIANGWAAK;3SAWAN;3KEOW;3HOY;3DOKMAI;3REVERSED ROTATED RANA;3MAI YAMOK;3KAAN
  1AA9 3KAANKUU;3SATKAAN;3SATKAANKUU;3HANG;3CAANG
  1AB0 0COMBINING DOUBLED CIRCUMFLEX ACCENT;1DIAERESIS-RING;1INFINITY;1DOWNWARDS a;1TRIPLE DOT
  1AB5 1X-X e;1WIGGLY LINE e;1OPEN MARK e;1d OPEN MARK e;1LIGHT CENTRALIZATION q e
  1ABA 1STRONG CENTRALIZATION q e;1PARENTHESES b;1d PARENTHESES b;1PARENTHESES e;2OVERLAY
  1ABF 1LATIN s l W e;4TURNED W e;1t PARENTHESIS b t;1r PARENTHESIS b r;1t PARENTHESIS e t
  1AC4 1r PARENTHESIS e r;1SQUARE BRACKETS b;1NUMBER i b;1INVERTED d ARCH b;1PLUS i b;1d PLUS i b
  1ACA 4e;1TRIPLE ACUTE ACCENT;1LATIN s l INSULAR G;5R;5T
  1B00 0BALINESE i ULU RICEM;3CANDRA;2CECEK;2SURANG;2BISAH;1l AKARA;3TEDUNG;2IKARA;3TEDUNG;2UKARA
  1B0A 3TEDUNG;2RA REPA;4TEDUNG;2LA LENGA;4TEDUNG;2EKARA;2AIKARA;2OKARA;3TEDUNG;2KA;3MAHAPRANA;2GA
  1B16 3GORA;2NGA;2CA;3LACA;2JA;3JERA;2NYA;2TA LATIK;3MURDA MAHAPRANA;2DA MURDA ALPAPRANA
  1B20 4MAHAPRANA;2NA RAMBAT;2TA;3TAWA;2DA;3MADU;2NA;2PA;3KAPAL;2BA;3KEMBANG;2MA;2YA;2RA;2LA;2WA
  1B30 2SA SAGA;3SAPA;3;2HA;1i REREKAN;1VOWEL i TEDUNG;3ULU;4SARI;3SUKU;4ILUT;3RA REPA;5TEDUNG
  1B3C 3LA LENGA;5TEDUNG;3TALING;4REPA;4TEDUNG;4REPA TEDUNG;3PEPET;4TEDUNG;1ADEG ADEG;1l KAF SASAK
  1B46 2KHOT SASAK;2TZIR SASAK;2EF SASAK;2VE SASAK;2ZAL SASAK;2ASYURA SASAK;2ARCHAIC JNYA
  1B50 1DIGIT ZERO;2ONE;2TWO;2m;2FOUR;2FIVE;2SIX;2SEVEN;2EIGHT;2NINE;1PANTI;1PAMADA;1WINDU
  1B5D 1CARIK PAMUNGKAH;2SIKI;2PAREREN;1PAMENENG;1MUSICAL y DONG;3DENG;3DUNG;3DANG;4SURANG;3DING
  1B67 3DAENG;3DEUNG;3DAING;3DANG GEDE;3COMBINING TEGEH;4ENDEP;4KEMPUL;4KEMPLI;4JEGOGAN
  1B70 4KEMPUL w JEGOGAN;4KEMPLI w JEGOGAN;4BENDE;4GONG;3RIGHT-HAND OPEN DUG;5DAG;4CLOSED TUK;5TAK
  1B78 3LEFT-HAND OPEN PANG;5PUNG;4CLOSED PLAK;5PLUK;4OPEN PING;1PANTI LANTANG;1PAMADA LANTANG
  1B80 0SUNDANESE i PANYECEK;2PANGLAYAR;2PANGWISAD;1l A;2I;2U;2AE;2O;2E;2EU;2KA;2QA;2GA;2NGA;2CA
  1B8F 2JA;2ZA;2NYA;2TA;2DA;2NA;2PA;2FA;2VA;2BA;2MA;2YA;2RA;2LA;2WA;2SA;2XA;2HA
  1BA1 1CONSONANT i PAMINGKAL;3PANYAKRA;3PANYIKU;1VOWEL i PANGHULU;3PANYUKU;3PANAELAENG;3PANOLONG
  1BA8 3PAMEPET;3PANEULEUNG;1i PAMAAEH;2VIRAMA;1CONSONANT i PASANGAN MA;4WA;1l KHA;2SYA
  1BB0 1DIGIT ZERO;2ONE;2TWO;2m;2FOUR;2FIVE;2SIX;2SEVEN;2EIGHT;2NINE;1AVAGRAHA;1l REU;2LEU;2BHA
  1BBE 2n K;3M;0BATAK l A;2SIMALUNGUN A;2HA;2SIMALUNGUN HA;2MANDAILING HA;2BA;2KARO BA;2PA
  1BC8 2SIMALUNGUN PA;2NA;2MANDAILING NA;2WA;2SIMALUNGUN WA;2PAKPAK WA;2GA;2SIMALUNGUN GA;2JA;2DA
  1BD2 2RA;2SIMALUNGUN RA;2MA;2SIMALUNGUN MA;2SOUTHERN TA;2NORTHERN TA;2SA;2SIMALUNGUN SA
  1BDA 2MANDAILING SA;2YA;2SIMALUNGUN YA;2NGA;2LA;2SIMALUNGUN LA;2NYA;2CA;2NDA;2MBA;2I;2U;1i TOMPI
  1BE7 1VOWEL i E;3PAKPAK E;3EE;3I;3KARO I;3O;3KARO O;3U;4FOR SIMALUNGUN SA;1CONSONANT i NG;3H
  1BF2 1PANGOLAT;1PANONGONAN
  1BFC 1y BINDU NA METEK;3PINARBORAS;3JUDUL;3PANGOLAT;0LEPCHA l KA;2KLA;2KHA;2GA;2GLA;2NGA;2CA
  1C07 2CHA;2JA;2NYA;2TA;2THA;2DA;2NA;2PA;2PLA;2PHA;2FA;2FLA;2BA;2BLA;2MA;2MLA;2TSA;2TSHA;2DZA;2YA
  1C1B 2RA;2LA;2HA;2HLA;2VA;2SA;2SHA;2WA;2A;1SUBJOINED l YA;3RA;1VOWEL i AA;3I;3O;3OO;3U;3UU;3E
  1C2D 1CONSONANT i K;3M;3L;3N;3P;3R;3T;3NYIN-DO;3KANG;1i RAN;2NUKTA
  1C3B 1PUNCTUATION TA-ROL;2NYET THYOOM TA-ROL;2CER-WA;2TSHOOK CER-WA;3;1DIGIT ZERO;2ONE;2TWO;2m
  1C44 2FOUR;2FIVE;2SIX;2SEVEN;2EIGHT;2NINE
  1C4D 1l TTA;2TTHA;2DDA;0OL CHIKI DIGIT ZERO;3ONE;3TWO;3m;3FOUR;3FIVE;3SIX;3SEVEN;3EIGHT;3NINE
  1C5A 2l LA;3AT;3AG;3ANG;3AL;3LAA;3AAK;3AAJ;3AAM;3AAW;3LI;3IS;3IH;3INY;3IR;3LU;3UC;3UD;3UNN;3UY
  1C6E 3LE;3EP;3EDD;3EN;3ERR;3LO;3OTT;3OB;3OV;3OH;2MU TTUDDAG;2GAAHLAA TTUDDAAG
  1C7A 2MU-GAAHLAA TTUDDAAG;2RELAA;2PHAARKAA;2AHAD;2PUNCTUATION MUCAAD;3d MUCAAD
  1C80 0CYRILLIC s l ROUNDED VE;3LONG-LEGGED DE;3NARROW O;3WIDE ES;3TALL TE;3THREE-LEGGED TE
  1C86 3TALL HARD i;4YAT;3UNBLENDED UK
  1C90 0GEORGIAN MTAVRULI c l AN;4BAN;4GAN;4DON;4EN;4VIN;4ZEN;4TAN;4IN;4KAN;4LAS;4MAN;4NAR;4ON
  1C9E 4PAR;4ZHAR;4RAE;4SAN;4TAR;4UN;4PHAR;4KHAR;4GHAN;4QAR;4SHIN;4CHIN;4CAN;4JIL;4CIL;4CHAR;4XAN
  1CAF 4JHAN;4HAE;4HE;4HIE;4WE;4HAR;4HOE;4FI;4YN;4ELIFI;4TURNED GAN;4AIN
  1CBD 4AEN;4HARD i;4LABIAL i;0SUNDANESE PUNCTUATION BINDU SURYA;3PANGLONG;3PURNAMA;3CAKRA
  1CC4 3LEU SATANGA;3KA SATANGA;3DA SATANGA;3BA SATANGA
  1CD0 0VEDIC TONE KARSHANA;2SHARA;2PRENKHA;1i NIHSHVASA;2YAJURVEDIC MIDLINE SVARITA
  1CD5 1TONE YAJURVEDIC AGGRAVATED INDEPENDENT SVARITA;3INDEPENDENT SVARITA
  1CD7 3KATHAKA INDEPENDENT SVARITA;2CANDRA e;2YAJURVEDIC KATHAKA INDEPENDENT SVARITA SCHROEDER
  1CDA 2d SVARITA;2TRIPLE SVARITA;2KATHAKA ANUDATTA;2DOT e;2TWO DOTS e;2m DOTS e
  1CE0 2RIGVEDIC KASHMIRI INDEPENDENT SVARITA;2ATHARVAVEDIC INDEPENDENT SVARITA;1i VISARGA SVARITA
  1CE3 3UDATTA;2REVERSED VISARGA UDATTA;2VISARGA ANUDATTA;2REVERSED VISARGA ANUDATTA
  1CE7 2VISARGA UDATTA w TAIL;3ANUDATTA w TAIL;2ANUSVARA ANTARGOMUKHA;3BAHIRGOMUKHA;3VAMAGOMUKHA
  1CEC 4w TAIL;2TIRYAK;2HEXIFORM LONG ANUSVARA;2LONG ANUSVARA;2RTHANG LONG ANUSVARA
  1CF1 2ANUSVARA UBHAYATO MUKHA;2ARDHAVISARGA;2ROTATED ARDHAVISARGA;1TONE CANDRA b;1i JIHVAMULIYA
  1CF6 2UPADHMANIYA;2ATIKRAMA;1TONE RING b;2d RING b;1i d ANUSVARA ANTARGOMUKHA
  1D00 0LATIN l s c A;4AE;1s l TURNED AE;1l s c BARRED B;4C;4D;4ETH;4E;1s l TURNED OPEN E;4I
  1D0A 1l s c J;4K;4L w q;4M;4REVERSED N;4O;4OPEN O;1s l SIDEWAYS O;4OPEN O;4O w q;3TURNED OE
  1D15 1l s c OU;1s l TOP HALF O;3BOTTOM HALF O;1l s c P;4REVERSED R;4TURNED R;4T;4U
  1D1D 1s l SIDEWAYS U;4DIAERESIZED U;4TURNED M;1l s c V;4W;4Z;4EZH;2VOICED LARYNGEAL SPIRANT;2AIN
  1D26 0GREEK l s c GAMMA;4LAMDA;4PI;4RHO;4PSI;0CYRILLIC l s c EL;0MODIFIER l c A;3AE;3B;3BARRED B
  1D30 3D;3E;3REVERSED E;3G;3H;3I;3J;3K;3L;3M;3N;3REVERSED N;3O;3OU;3P;3R;3T;3U;3W;2s A;3TURNED A
  1D45 3ALPHA;3TURNED AE;3B;3D;3E;3SCHWA;3OPEN E;3TURNED OPEN E;3G;3TURNED I;3K;3M;3ENG;3O;3OPEN O
  1D54 3TOP HALF O;3BOTTOM HALF O;3P;3T;3U;3SIDEWAYS U;3TURNED M;3V;3AIN;3BETA;3GREEK GAMMA;3DELTA
  1D60 3GREEK PHI;3CHI;0LATIN SUBSCRIPT s l I;4R;4U;4V;0GREEK SUBSCRIPT s l BETA;4GAMMA;4RHO;4PHI
  1D6A 4CHI;0LATIN s l UE;3B w MIDDLE TILDE;3D w MIDDLE TILDE;3F w MIDDLE TILDE;3M w MIDDLE TILDE
  1D70 3N w MIDDLE TILDE;3P w MIDDLE TILDE;3R w MIDDLE TILDE;5FISHHOOK h MIDDLE TILDE
  1D74 3S w MIDDLE TILDE;3T w MIDDLE TILDE;3Z w MIDDLE TILDE;3TURNED G;0MODIFIER l CYRILLIC EN
  1D79 0LATIN s l INSULAR G;3TH w STRIKETHROUGH;2c l I w q;2l IOTA w q;3P w q;2c l U w q
  1D7F 2l UPSILON w q;3B w PALATAL HOOK;3D w PALATAL HOOK;3F w PALATAL HOOK;3G w PALATAL HOOK
  1D84 3K w PALATAL HOOK;3L w PALATAL HOOK;3M w PALATAL HOOK;3N w PALATAL HOOK;3P w PALATAL HOOK
  1D89 3R w PALATAL HOOK;3S w PALATAL HOOK;3ESH w PALATAL HOOK;3V w PALATAL HOOK;3X w PALATAL HOOK
  1D8E 3Z w PALATAL HOOK;3A w RETROFLEX HOOK;3ALPHA w RETROFLEX HOOK;3D w HOOK h TAIL
  1D92 3E w RETROFLEX HOOK;3OPEN E w RETROFLEX HOOK;3REVERSED OPEN E w RETROFLEX HOOK
  1D95 3SCHWA w RETROFLEX HOOK;3I w RETROFLEX HOOK;3OPEN O w RETROFLEX HOOK;3ESH w RETROFLEX HOOK
  1D99 3U w RETROFLEX HOOK;3EZH w RETROFLEX HOOK;0MODIFIER l s TURNED ALPHA;3C;4w CURL;3ETH
  1D9F 3REVERSED OPEN E;3F;3DOTLESS J w q;3SCRIPT G;3TURNED H;3I w q;3IOTA;3c I;5w q
  1DA8 3J w CROSSED-TAIL;3L w RETROFLEX HOOK;5PALATAL HOOK;3c L;3M w HOOK;3TURNED M w LONG LEG
  1DAE 3N w t HOOK;5RETROFLEX HOOK;3c N;3BARRED O;3PHI;3S w HOOK;3ESH;3T w PALATAL HOOK;3U BAR
  1DB7 3UPSILON;3c U;3V w HOOK;3TURNED V;3Z;4w RETROFLEX HOOK;5CURL;3EZH;3THETA
  1DC0 0COMBINING DOTTED GRAVE ACCENT;2ACUTE ACCENT;1SNAKE e;1SUSPENSION MARK;1MACRON-ACUTE
  1DC5 1GRAVE-MACRON;1MACRON-GRAVE;1ACUTE-MACRON;1GRAVE-ACUTE-GRAVE;1ACUTE-GRAVE-ACUTE
  1DCA 1LATIN s l R e;1BREVE-MACRON;1MACRON-BREVE;1d CIRCUMFLEX b;1OGONEK b;1ZIGZAG e;1IS e;1UR b
  1DD2 1US b;1LATIN s l FLATTENED OPEN A b;4AE;4AO;4AV;4C CEDILLA;4INSULAR D;4ETH;4G;2l s c G
  1DDC 2s l K;4L;2l s c L;5M;2s l N;2l s c N;5R;2s l R ROTUNDA;4S;4LONG S;4Z;4ALPHA;4B;4BETA
  1DEA 4SCHWA;4F;4L w d MIDDLE TILDE;4O w LIGHT CENTRALIZATION q;4P;4ESH
  1DF0 4U w LIGHT CENTRALIZATION q;4W;4A w DIAERESIS;4O w DIAERESIS;4U w DIAERESIS;1UP TACK b
  1DF6 1KAVYKA b r;3t;1DOT b t;1WIDE INVERTED BRIDGE e;1DOT e t;1DELETION MARK;1d INVERTED BREVE e
  1DFD 1ALMOST EQUAL TO e;1t ARROWHEAD b;1r ARROWHEAD h DOWN ARROWHEAD e;0LATIN c l A w RING e
  1E01 1s l A w RING e;1c l B w DOT b;1s l B w DOT b;1c l B w DOT e;1s l B w DOT e;1c l B w LINE e
  1E07 1s l B w LINE e;1c l C w CEDILLA h ACUTE;1s l C w CEDILLA h ACUTE;1c l D w DOT b
  1E0B 1s l D w DOT b;1c l D w DOT e;1s l D w DOT e;1c l D w LINE e;1s l D w LINE e
  1E10 1c l D w CEDILLA;1s l D w CEDILLA;1c l D w CIRCUMFLEX e;1s l D w CIRCUMFLEX e
  1E14 1c l E w MACRON h GRAVE;1s l E w MACRON h GRAVE;1c l E w MACRON h ACUTE
  1E17 1s l E w MACRON h ACUTE;1c l E w CIRCUMFLEX e;1s l E w CIRCUMFLEX e;1c l E w TILDE e
  1E1B 1s l E w TILDE e;1c l E w CEDILLA h BREVE;1s l E w CEDILLA h BREVE;1c l F w DOT b
  1E1F 1s l F w DOT b;1c l G w MACRON;1s l G w MACRON;1c l H w DOT b;1s l H w DOT b;1c l H w DOT e
  1E25 1s l H w DOT e;1c l H w DIAERESIS;1s l H w DIAERESIS;1c l H w CEDILLA;1s l H w CEDILLA
  1E2A 1c l H w BREVE e;1s l H w BREVE e;1c l I w TILDE e;1s l I w TILDE e
  1E2E 1c l I w DIAERESIS h ACUTE;1s l I w DIAERESIS h ACUTE;1c l K w ACUTE;1s l K w ACUTE
  1E32 1c l K w DOT e;1s l K w DOT e;1c l K w LINE e;1s l K w LINE e;1c l L w DOT e;1s l L w DOT e
  1E38 1c l L w DOT e h MACRON;1s l L w DOT e h MACRON;1c l L w LINE e;1s l L w LINE e
  1E3C 1c l L w CIRCUMFLEX e;1s l L w CIRCUMFLEX e;1c l M w ACUTE;1s l M w ACUTE;1c l M w DOT b
  1E41 1s l M w DOT b;1c l M w DOT e;1s l M w DOT e;1c l N w DOT b;1s l N w DOT b;1c l N w DOT e
  1E47 1s l N w DOT e;1c l N w LINE e;1s l N w LINE e;1c l N w CIRCUMFLEX e;1s l N w CIRCUMFLEX e
  1E4C 1c l O w TILDE h ACUTE;1s l O w TILDE h ACUTE;1c l O w TILDE h DIAERESIS
  1E4F 1s l O w TILDE h DIAERESIS;1c l O w MACRON h GRAVE;1s l O w MACRON h GRAVE
  1E52 1c l O w MACRON h ACUTE;1s l O w MACRON h ACUTE;1c l P w ACUTE;1s l P w ACUTE
  1E56 1c l P w DOT b;1s l P w DOT b;1c l R w DOT b;1s l R w DOT b;1c l R w DOT e;1s l R w DOT e
  1E5C 1c l R w DOT e h MACRON;1s l R w DOT e h MACRON;1c l R w LINE e;1s l R w LINE e
  1E60 1c l S w DOT b;1s l S w DOT b;1c l S w DOT e;1s l S w DOT e;1c l S w ACUTE h DOT b
  1E65 1s l S w ACUTE h DOT b;1c l S w CARON h DOT b;1s l S w CARON h DOT b;1c l S w DOT e h DOT b
  1E69 1s l S w DOT e h DOT b;1c l T w DOT b;1s l T w DOT b;1c l T w DOT e;1s l T w DOT e
  1E6E 1c l T w LINE e;1s l T w LINE e;1c l T w CIRCUMFLEX e;1s l T w CIRCUMFLEX e
  1E72 1c l U w DIAERESIS e;1s l U w DIAERESIS e;1c l U w TILDE e;1s l U w TILDE e
  1E76 1c l U w CIRCUMFLEX e;1s l U w CIRCUMFLEX e;1c l U w TILDE h ACUTE;1s l U w TILDE h ACUTE
  1E7A 1c l U w MACRON h DIAERESIS;1s l U w MACRON h DIAERESIS;1c l V w TILDE;1s l V w TILDE
  1E7E 1c l V w DOT e;1s l V w DOT e;1c l W w GRAVE;1s l W w GRAVE;1c l W w ACUTE;1s l W w ACUTE
  1E84 1c l W w DIAERESIS;1s l W w DIAERESIS;1c l W w DOT b;1s l W w DOT b;1c l W w DOT e
  1E89 1s l W w DOT e;1c l X w DOT b;1s l X w DOT b;1c l X w DIAERESIS;1s l X w DIAERESIS
  1E8E 1c l Y w DOT b;1s l Y w DOT b;1c l Z w CIRCUMFLEX;1s l Z w CIRCUMFLEX;1c l Z w DOT e
  1E93 1s l Z w DOT e;1c l Z w LINE e;1s l Z w LINE e;3H w LINE e;3T w DIAERESIS;3W w RING b
  1E99 3Y w RING b;3A w r HALF RING;3LONG S w DOT b;6DIAGONAL q;6HIGH q;1c l SHARP S;1s l DELTA
  1EA0 1c l A w DOT e;1s l A w DOT e;1c l A w HOOK b;1s l A w HOOK b;1c l A w CIRCUMFLEX h ACUTE
  1EA5 1s l A w CIRCUMFLEX h ACUTE;1c l A w CIRCUMFLEX h GRAVE;1s l A w CIRCUMFLEX h GRAVE
  1EA8 1c l A w CIRCUMFLEX h HOOK b;1s l A w CIRCUMFLEX h HOOK b;1c l A w CIRCUMFLEX h TILDE
  1EAB 1s l A w CIRCUMFLEX h TILDE;1c l A w CIRCUMFLEX h DOT e;1s l A w CIRCUMFLEX h DOT e
  1EAE 1c l A w BREVE h ACUTE;1s l A w BREVE h ACUTE;1c l A w BREVE h GRAVE;1s l A w BREVE h GRAVE
  1EB2 1c l A w BREVE h HOOK b;1s l A w BREVE h HOOK b;1c l A w BREVE h TILDE
  1EB5 1s l A w BREVE h TILDE;1c l A w BREVE h DOT e;1s l A w BREVE h DOT e;1c l E w DOT e
  1EB9 1s l E w DOT e;1c l E w HOOK b;1s l E w HOOK b;1c l E w TILDE;1s l E w TILDE
  1EBE 1c l E w CIRCUMFLEX h ACUTE;1s l E w CIRCUMFLEX h ACUTE;1c l E w CIRCUMFLEX h GRAVE
  1EC1 1s l E w CIRCUMFLEX h GRAVE;1c l E w CIRCUMFLEX h HOOK b;1s l E w CIRCUMFLEX h HOOK b
  1EC4 1c l E w CIRCUMFLEX h TILDE;1s l E w CIRCUMFLEX h TILDE;1c l E w CIRCUMFLEX h DOT e
  1EC7 1s l E w CIRCUMFLEX h DOT e;1c l I w HOOK b;1s l I w HOOK b;1c l I w DOT e;1s l I w DOT e
  1ECC 1c l O w DOT e;1s l O w DOT e;1c l O w HOOK b;1s l O w HOOK b;1c l O w CIRCUMFLEX h ACUTE
  1ED1 1s l O w CIRCUMFLEX h ACUTE;1c l O w CIRCUMFLEX h GRAVE;1s l O w CIRCUMFLEX h GRAVE
  1ED4 1c l O w CIRCUMFLEX h HOOK b;1s l O w CIRCUMFLEX h HOOK b;1c l O w CIRCUMFLEX h TILDE
  1ED7 1s l O w CIRCUMFLEX h TILDE;1c l O w CIRCUMFLEX h DOT e;1s l O w CIRCUMFLEX h DOT e
  1EDA 1c l O w HORN h ACUTE;1s l O w HORN h ACUTE;1c l O w HORN h GRAVE;1s l O w HORN h GRAVE
  1EDE 1c l O w HORN h HOOK b;1s l O w HORN h HOOK b;1c l O w HORN h TILDE;1s l O w HORN h TILDE
  1EE2 1c l O w HORN h DOT e;1s l O w HORN h DOT e;1c l U w DOT e;1s l U w DOT e;1c l U w HOOK b
  1EE7 1s l U w HOOK b;1c l U w HORN h ACUTE;1s l U w HORN h ACUTE;1c l U w HORN h GRAVE
  1EEB 1s l U w HORN h GRAVE;1c l U w HORN h HOOK b;1s l U w HORN h HOOK b;1c l U w HORN h TILDE
  1EEF 1s l U w HORN h TILDE;1c l U w HORN h DOT e;1s l U w HORN h DOT e;1c l Y w GRAVE
  1EF3 1s l Y w GRAVE;1c l Y w DOT e;1s l Y w DOT e;1c l Y w HOOK b;1s l Y w HOOK b;1c l Y w TILDE
  1EF9 1s l Y w TILDE;1c l MIDDLE-WELSH LL;1s l MIDDLE-WELSH LL;1c l MIDDLE-WELSH V
  1EFD 1s l MIDDLE-WELSH V;1c l Y w LOOP;1s l Y w LOOP;0GREEK s l ALPHA w PSILI;5DASIA
  1F02 5PSILI h VARIA;5DASIA h VARIA;5PSILI h OXIA;5DASIA h OXIA;5PSILI h PERISPOMENI
  1F07 5DASIA h PERISPOMENI;1c l ALPHA w PSILI;5DASIA;5PSILI h VARIA;5DASIA h VARIA;5PSILI h OXIA
  1F0D 5DASIA h OXIA;5PSILI h PERISPOMENI;5DASIA h PERISPOMENI;1s l EPSILON w PSILI;5DASIA
  1F12 5PSILI h VARIA;5DASIA h VARIA;5PSILI h OXIA;5DASIA h OXIA
  1F18 1c l EPSILON w PSILI;5DASIA;5PSILI h VARIA;5DASIA h VARIA;5PSILI h OXIA;5DASIA h OXIA
  1F20 1s l ETA w PSILI;5DASIA;5PSILI h VARIA;5DASIA h VARIA;5PSILI h OXIA;5DASIA h OXIA
  1F26 5PSILI h PERISPOMENI;5DASIA h PERISPOMENI;1c l ETA w PSILI;5DASIA;5PSILI h VARIA
  1F2B 5DASIA h VARIA;5PSILI h OXIA;5DASIA h OXIA;5PSILI h PERISPOMENI;5DASIA h PERISPOMENI
  1F30 1s l IOTA w PSILI;5DASIA;5PSILI h VARIA;5DASIA h VARIA;5PSILI h OXIA;5DASIA h OXIA
  1F36 5PSILI h PERISPOMENI;5DASIA h PERISPOMENI;1c l IOTA w PSILI;5DASIA;5PSILI h VARIA
  1F3B 5DASIA h VARIA;5PSILI h OXIA;5DASIA h OXIA;5PSILI h PERISPOMENI;5DASIA h PERISPOMENI
  1F40 1s l OMICRON w PSILI;5DASIA;5PSILI h VARIA;5DASIA h VARIA;5PSILI h OXIA;5DASIA h OXIA
  1F48 1c l OMICRON w PSILI;5DASIA;5PSILI h VARIA;5DASIA h VARIA;5PSILI h OXIA;5DASIA h OXIA
  1F50 1s l UPSILON w PSILI;5DASIA;5PSILI h VARIA;5DASIA h VARIA;5PSILI h OXIA;5DASIA h OXIA
  1F56 5PSILI h PERISPOMENI;5DASIA h PERISPOMENI
  1F59 1c l UPSILON w DASIA
  1F5B 6h VARIA
  1F5D 7OXIA
  1F5F 7PERISPOMENI;1s l OMEGA w PSILI;5DASIA;5PSILI h VARIA;5DASIA h VARIA;5PSILI h OXIA
  1F65 5DASIA h OXIA;5PSILI h PERISPOMENI;5DASIA h PERISPOMENI;1c l OMEGA w PSILI;5DASIA
  1F6A 5PSILI h VARIA;5DASIA h VARIA;5PSILI h OXIA;5DASIA h OXIA;5PSILI h PERISPOMENI
  1F6F 5DASIA h PERISPOMENI;1s l ALPHA w VARIA;5OXIA;3EPSILON w VARIA;5OXIA;3ETA w VARIA;5OXIA
  1F76 3IOTA w VARIA;5OXIA;3OMICRON w VARIA;5OXIA;3UPSILON w VARIA;5OXIA;3OMEGA w VARIA;5OXIA
  1F80 3ALPHA w PSILI h YPOGEGRAMMENI;5DASIA h YPOGEGRAMMENI;5PSILI h VARIA h YPOGEGRAMMENI
  1F83 5DASIA h VARIA h YPOGEGRAMMENI;5PSILI h OXIA h YPOGEGRAMMENI;5DASIA h OXIA h YPOGEGRAMMENI
  1F86 5PSILI h PERISPOMENI h YPOGEGRAMMENI;5DASIA h PERISPOMENI h YPOGEGRAMMENI
  1F88 1c l ALPHA w PSILI h PROSGEGRAMMENI;5DASIA h PROSGEGRAMMENI;5PSILI h VARIA h PROSGEGRAMMENI
  1F8B 5DASIA h VARIA h PROSGEGRAMMENI;5PSILI h OXIA h PROSGEGRAMMENI
  1F8D 5DASIA h OXIA h PROSGEGRAMMENI;5PSILI h PERISPOMENI h PROSGEGRAMMENI
  1F8F 5DASIA h PERISPOMENI h PROSGEGRAMMENI;1s l ETA w PSILI h YPOGEGRAMMENI
  1F91 5DASIA h YPOGEGRAMMENI;5PSILI h VARIA h YPOGEGRAMMENI;5DASIA h VARIA h YPOGEGRAMMENI
  1F94 5PSILI h OXIA h YPOGEGRAMMENI;5DASIA h OXIA h YPOGEGRAMMENI
  1F96 5PSILI h PERISPOMENI h YPOGEGRAMMENI;5DASIA h PERISPOMENI h YPOGEGRAMMENI
  1F98 1c l ETA w PSILI h PROSGEGRAMMENI;5DASIA h PROSGEGRAMMENI;5PSILI h VARIA h PROSGEGRAMMENI
  1F9B 5DASIA h VARIA h PROSGEGRAMMENI;5PSILI h OXIA h PROSGEGRAMMENI
  1F9D 5DASIA h OXIA h PROSGEGRAMMENI;5PSILI h PERISPOMENI h PROSGEGRAMMENI
  1F9F 5DASIA h PERISPOMENI h PROSGEGRAMMENI;1s l OMEGA w PSILI h YPOGEGRAMMENI
  1FA1 5DASIA h YPOGEGRAMMENI;5PSILI h VARIA h YPOGEGRAMMENI;5DASIA h VARIA h YPOGEGRAMMENI
  1FA4 5PSILI h OXIA h YPOGEGRAMMENI;5DASIA h OXIA h YPOGEGRAMMENI
  1FA6 5PSILI h PERISPOMENI h YPOGEGRAMMENI;5DASIA h PERISPOMENI h YPOGEGRAMMENI
  1FA8 1c l OMEGA w PSILI h PROSGEGRAMMENI;5DASIA h PROSGEGRAMMENI;5PSILI h VARIA h PROSGEGRAMMENI
  1FAB 5DASIA h VARIA h PROSGEGRAMMENI;5PSILI h OXIA h PROSGEGRAMMENI
  1FAD 5DASIA h OXIA h PROSGEGRAMMENI;5PSILI h PERISPOMENI h PROSGEGRAMMENI
  1FAF 5DASIA h PERISPOMENI h PROSGEGRAMMENI;1s l ALPHA w VRACHY;5MACRON;5VARIA h YPOGEGRAMMENI
  1FB3 5YPOGEGRAMMENI;5OXIA h YPOGEGRAMMENI
  1FB6 5PERISPOMENI;6h YPOGEGRAMMENI;1c l ALPHA w VRACHY;5MACRON;5VARIA;5OXIA;5PROSGEGRAMMENI
  1FBD 1KORONIS;1PROSGEGRAMMENI;1PSILI;1PERISPOMENI;1DIALYTIKA h PERISPOMENI
  1FC2 1s l ETA w VARIA h YPOGEGRAMMENI;5YPOGEGRAMMENI;5OXIA h YPOGEGRAMMENI
  1FC6 5PERISPOMENI;6h YPOGEGRAMMENI;1c l EPSILON w VARIA;5OXIA;3ETA w VARIA;5OXIA;5PROSGEGRAMMENI
  1FCD 1PSILI h VARIA;3OXIA;3PERISPOMENI;1s l IOTA w VRACHY;5MACRON;5DIALYTIKA h VARIA;7OXIA
  1FD6 5PERISPOMENI;5DIALYTIKA h PERISPOMENI;1c l IOTA w VRACHY;5MACRON;5VARIA;5OXIA
  1FDD 1DASIA h VARIA;3OXIA;3PERISPOMENI;1s l UPSILON w VRACHY;5MACRON;5DIALYTIKA h VARIA;7OXIA
  1FE4 3RHO w PSILI;5DASIA;3UPSILON w PERISPOMENI;5DIALYTIKA h PERISPOMENI;1c l UPSILON w VRACHY
  1FE9 5MACRON;5VARIA;5OXIA;3RHO w DASIA;1DIALYTIKA h VARIA;3OXIA;1VARIA
  1FF2 1s l OMEGA w VARIA h YPOGEGRAMMENI;5YPOGEGRAMMENI;5OXIA h YPOGEGRAMMENI
  1FF6 5PERISPOMENI;6h YPOGEGRAMMENI;1c l OMICRON w VARIA;5OXIA;3OMEGA w VARIA;5OXIA
  1FFC 5PROSGEGRAMMENI;1OXIA;1DASIA"

end Dialect.Text.CharName
