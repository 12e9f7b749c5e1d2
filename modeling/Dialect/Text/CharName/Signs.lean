namespace Dialect.Text.CharName

-- Characters from 2000 to 2FFF: punctuation, arrows, mathematical and other signs.
def signs : String := "
  2000 0EN QUAD;0EM QUAD;0EN SPACE;0EM SPACE;0THREE-PER-EM SPACE;0FOUR-PER-EM SPACE
  2006 0SIX-PER-EM SPACE;0FIGURE SPACE;0PUNCTUATION SPACE;0THIN SPACE;0HAIR SPACE
  200B 0ZERO WIDTH SPACE;2NON-JOINER;2JOINER;0LEFT-TO-RIGHT MARK;0RIGHT-TO-LEFT MARK;0HYPHEN
  2011 0NON-BREAKING HYPHEN;0FIGURE DASH;0EN DASH;0EM DASH;0z BAR;0d v LINE;1LOW LINE
  2018 0t SINGLE QUOTATION MARK;0r SINGLE QUOTATION MARK;0SINGLE LOW-9 QUOTATION MARK
  201B 1HIGH-REVERSED-9 QUOTATION MARK;0t d QUOTATION MARK;0r d QUOTATION MARK
  201E 0d LOW-9 QUOTATION MARK;1HIGH-REVERSED-9 QUOTATION MARK;0DAGGER;0d DAGGER;0BULLET
  2023 0TRIANGULAR BULLET;0ONE DOT LEADER;0TWO DOT LEADER;0z ELLIPSIS;0HYPHENATION POINT
  2028 0LINE SEPARATOR;0PARAGRAPH SEPARATOR;0LEFT-TO-RIGHT EMBEDDING;0RIGHT-TO-LEFT EMBEDDING
  202C 0POP DIRECTIONAL FORMATTING;0LEFT-TO-RIGHT OVERRIDE;0RIGHT-TO-LEFT OVERRIDE
  202F 0NARROW NO-BREAK SPACE;0PER MILLE i;1TEN THOUSAND i;0PRIME;0d PRIME;0TRIPLE PRIME
  2035 0REVERSED PRIME;1d PRIME;1TRIPLE PRIME;0CARET;0SINGLE LEFT-POINTING ANGLE QUOTATION MARK
  203A 1RIGHT-POINTING ANGLE QUOTATION MARK;0REFERENCE MARK;0d EXCLAMATION MARK;0INTERROBANG
  203E 0OVERLINE;0UNDERTIE;0CHARACTER TIE;0CARET INSERTION POINT;0ASTERISM;0HYPHEN BULLET
  2044 0FRACTION SLASH;0t SQUARE BRACKET w QUILL;0r SQUARE BRACKET w QUILL;0d QUESTION MARK
  2048 0QUESTION EXCLAMATION MARK;0EXCLAMATION QUESTION MARK;0TIRONIAN i ET;0REVERSED PILCROW i
  204C 0u j BULLET;1g BULLET;0LOW ASTERISK;0REVERSED SEMICOLON;0CLOSE UP
  2051 0TWO ASTERISKS ALIGNED VERTICALLY;0COMMERCIAL MINUS i;0SWUNG DASH;0INVERTED UNDERTIE
  2055 0FLOWER PUNCTUATION MARK;0m DOT PUNCTUATION;0QUADRUPLE PRIME;0FOUR DOT PUNCTUATION
  2059 0FIVE DOT PUNCTUATION;0TWO DOT PUNCTUATION;0FOUR DOT MARK;0DOTTED CROSS;0TRICOLON
  205E 0v FOUR DOTS;0MEDIUM MATHEMATICAL SPACE;0WORD JOINER;0FUNCTION APPLICATION;0INVISIBLE TIMES
  2063 1SEPARATOR;1PLUS
  2066 0LEFT-TO-RIGHT ISOLATE;0RIGHT-TO-LEFT ISOLATE;0FIRST STRONG ISOLATE
  2069 0POP DIRECTIONAL ISOLATE;0INHIBIT SYMMETRIC SWAPPING;0ACTIVATE SYMMETRIC SWAPPING
  206C 0INHIBIT ARABIC f SHAPING;0ACTIVATE ARABIC f SHAPING;0NATIONAL DIGIT SHAPES
  206F 0NOMINAL DIGIT SHAPES;0SUPERSCRIPT ZERO;1LATIN s l I
  2074 1FOUR;1FIVE;1SIX;1SEVEN;1EIGHT;1NINE;1PLUS i;1MINUS;1EQUALS i;1t PARENTHESIS;1r PARENTHESIS
  207F 1LATIN s l N;0SUBSCRIPT ZERO;1ONE;1TWO;1m;1FOUR;1FIVE;1SIX;1SEVEN;1EIGHT;1NINE;1PLUS i
  208B 1MINUS;1EQUALS i;1t PARENTHESIS;1r PARENTHESIS
  2090 0LATIN SUBSCRIPT s l A;4E;4O;4X;4SCHWA;4H;4K;4L;4M;4N;4P;4S;4T
  20A0 0EURO-CURRENCY i;0COLON i;0CRUZEIRO i;0FRENCH FRANC i;0LIRA i;0MILL i;0NAIRA i;0PESETA i
  20A8 0RUPEE i;0WON i;0NEW SHEQEL i;0DONG i;0EURO i;0KIP i;0TUGRIK i;0DRACHMA i;0GERMAN PENNY i
  20B1 0PESO i;0GUARANI i;0AUSTRAL i;0HRYVNIA i;0CEDI i;0LIVRE TOURNOIS i;0SPESMILO i;0TENGE i
  20B9 0INDIAN RUPEE i;0TURKISH LIRA i;0NORDIC MARK i;0MANAT i;0RUBLE i;0LARI i;0BITCOIN i;0SOM i
  20D0 0COMBINING t HARPOON b;1r HARPOON b;1LONG v LINE OVERLAY;1SHORT v LINE OVERLAY
  20D4 1ANTICLOCKWISE a b;1CLOCKWISE a b;1t a b;1r a b;1RING OVERLAY;1CLOCKWISE RING OVERLAY
  20DA 1ANTICLOCKWISE RING OVERLAY;1m DOTS b;1FOUR DOTS b;1ENCLOSING CIRCLE;2SQUARE;2DIAMOND
  20E0 2CIRCLE BACKSLASH;1t r a b;1ENCLOSING SCREEN;2KEYCAP;2UPWARD POINTING TRIANGLE
  20E5 1REVERSE SOLIDUS OVERLAY;1d v q OVERLAY;1ANNUITY y;1TRIPLE UNDERDOT;1WIDE BRIDGE b
  20EA 1j a OVERLAY;1LONG d SOLIDUS OVERLAY;1g HARPOON w BARB DOWNWARDS
  20ED 1j HARPOON w BARB DOWNWARDS;1t a e;1r a e;1ASTERISK b
  2100 0ACCOUNT OF;0ADDRESSED TO THE SUBJECT;0DOUBLE-STRUCK c C;0DEGREE CELSIUS;0CENTRE LINE y
  2105 0CARE OF;0CADA UNA;0EULER CONSTANT;0SCRUPLE;0DEGREE FAHRENHEIT;0SCRIPT s G;1c H
  210C 0BLACK-LETTER c H;0DOUBLE-STRUCK c H;0PLANCK CONSTANT;2OVER TWO PI;0SCRIPT c I
  2111 0BLACK-LETTER c I;0SCRIPT c L;1s L;0L B BAR y;0DOUBLE-STRUCK c N;0NUMERO i
  2117 0SOUND RECORDING COPYRIGHT;0SCRIPT c P;0DOUBLE-STRUCK c P;2Q;0SCRIPT c R;0BLACK-LETTER c R
  211D 0DOUBLE-STRUCK c R;0PRESCRIPTION TAKE;0RESPONSE;0SERVICE MARK;0TELEPHONE i;0TRADE MARK i
  2123 0VERSICLE;0DOUBLE-STRUCK c Z;0OUNCE i;0OHM i;0INVERTED OHM i;0BLACK-LETTER c Z
  2129 0TURNED GREEK s l IOTA;0KELVIN i;0ANGSTROM i;0SCRIPT c B;0BLACK-LETTER c C;0ESTIMATED y
  212F 0SCRIPT s E;1c E;2F;0TURNED c F;0SCRIPT c M;1s O;0ALEF y;0BET y;0GIMEL y;0DALET y
  2139 0INFORMATION SOURCE;0ROTATED c Q;0FACSIMILE i;0DOUBLE-STRUCK s PI;2GAMMA;1c GAMMA;2PI
  2140 1N-ARY SUMMATION;0TURNED SANS-SERIF c G;3L;0REVERSED SANS-SERIF c L;0TURNED SANS-SERIF c Y
  2145 0DOUBLE-STRUCK ITALIC c D;2s D;3E;3I;3J;0PROPERTY LINE;0TURNED AMPERSAND;0PER i
  214D 0AKTIESELSKAB;0TURNED s F;0y FOR SAMARITAN SOURCE;0VULGAR FRACTION ONE SEVENTH;3NINTH
  2152 3TENTH;3THIRD;2TWO THIRDS;2ONE FIFTH;2TWO FIFTHS;2m FIFTHS;2FOUR FIFTHS;2ONE SIXTH
  215A 2FIVE SIXTHS;2ONE EIGHTH;2m EIGHTHS;2FIVE EIGHTHS;2SEVEN EIGHTHS;0FRACTION NUMERATOR ONE
  2160 0ROMAN NUMERAL ONE;2TWO;2m;2FOUR;2FIVE;2SIX;2SEVEN;2EIGHT;2NINE;2TEN;2ELEVEN;2TWELVE;2FIFTY
  216D 2ONE HUNDRED;2FIVE HUNDRED;2ONE THOUSAND;0s ROMAN NUMERAL ONE;3TWO;3m;3FOUR;3FIVE;3SIX
  2176 3SEVEN;3EIGHT;3NINE;3TEN;3ELEVEN;3TWELVE;3FIFTY;3ONE HUNDRED;3FIVE HUNDRED;3ONE THOUSAND
  2180 0ROMAN NUMERAL ONE THOUSAND C D;2FIVE THOUSAND;2TEN THOUSAND;2REVERSED ONE HUNDRED
  2184 0LATIN s l REVERSED C;0ROMAN NUMERAL SIX LATE f;2FIFTY EARLY f;3THOUSAND
  2188 2ONE HUNDRED THOUSAND;0VULGAR FRACTION ZERO THIRDS;0TURNED DIGIT TWO;2m
  2190 0j a;0UPWARDS a;0g a;0DOWNWARDS a;0t r a;0UP DOWN a;0NORTH WEST a;1EAST a;0SOUTH EAST a
  2199 1WEST a;0j a w q;0g a w q;0j WAVE a;0g WAVE a;0j TWO HEADED a;0UPWARDS TWO HEADED a
  21A0 0g TWO HEADED a;0DOWNWARDS TWO HEADED a;0j a w TAIL;0g a w TAIL;0j a FROM BAR
  21A5 0UPWARDS a FROM BAR;0g a FROM BAR;0DOWNWARDS a FROM BAR;0UP DOWN a w BASE;0j a w HOOK
  21AA 0g a w HOOK;0j a w LOOP;0g a w LOOP;0t r WAVE a;2a w q;0DOWNWARDS ZIGZAG a
  21B0 0UPWARDS a w TIP j;4g;0DOWNWARDS a w TIP j;4g;0g a w CORNER DOWNWARDS
  21B5 0DOWNWARDS a w CORNER j;0ANTICLOCKWISE TOP SEMICIRCLE a;0CLOCKWISE TOP SEMICIRCLE a
  21B8 0NORTH WEST a TO LONG BAR;0j a TO BAR OVER g a TO BAR;0ANTICLOCKWISE OPEN CIRCLE a
  21BB 0CLOCKWISE OPEN CIRCLE a;0j HARPOON w BARB UPWARDS;4DOWNWARDS;0UPWARDS HARPOON w BARB g;4j
  21C0 0g HARPOON w BARB UPWARDS;4DOWNWARDS;0DOWNWARDS HARPOON w BARB g;4j;0g a OVER j a
  21C5 0UPWARDS a j OF DOWNWARDS a;0j a OVER g a;1PAIRED ARROWS;0UPWARDS PAIRED ARROWS
  21C9 0g PAIRED ARROWS;0DOWNWARDS PAIRED ARROWS;0j HARPOON OVER g HARPOON
  21CC 0g HARPOON OVER j HARPOON;0j d a w q;0t r d a w q;0g d a w q;0j d a;0UPWARDS d a;0g d a
  21D3 0DOWNWARDS d a;0t r d a;0UP DOWN d a;0NORTH WEST d a;1EAST d a;0SOUTH EAST d a;1WEST d a
  21DA 0j TRIPLE a;0g TRIPLE a;0j SQUIGGLE a;0g SQUIGGLE a;0UPWARDS a w d q;0DOWNWARDS a w d q
  21E0 0j DASHED a;0UPWARDS DASHED a;0g DASHED a;0DOWNWARDS DASHED a;0j a TO BAR;0g a TO BAR
  21E6 0j x a;0UPWARDS x a;0g x a;0DOWNWARDS x a;0UPWARDS x a FROM BAR;3ON PEDESTAL;5w z BAR
  21ED 6v BAR;2d a;4ON PEDESTAL;0g x a FROM WALL;0NORTH WEST a TO CORNER;0SOUTH EAST a TO CORNER
  21F3 0UP DOWN x a;0r a w s CIRCLE;0DOWNWARDS a j OF UPWARDS a;0m g ARROWS;0j a w v q;0g a w v q
  21F9 0t r a w v q;0j a w d v q;0g a w d v q;0t r a w d v q;0j OPEN-HEADED a;0g OPEN-HEADED a
  21FF 0t r OPEN-HEADED a;0FOR ALL;0COMPLEMENT;0PARTIAL DIFFERENTIAL;0THERE EXISTS;1DOES NOT EXIST
  2205 0EMPTY SET;0INCREMENT;0NABLA;0ELEMENT OF;0NOT AN ELEMENT OF;0s ELEMENT OF
  220B 0CONTAINS AS MEMBER;0DOES NOT CONTAIN AS MEMBER;0s CONTAINS AS MEMBER;0END OF PROOF
  220F 0N-ARY PRODUCT;1COPRODUCT;1SUMMATION;0MINUS i;0MINUS-OR-PLUS i;0DOT PLUS;0DIVISION SLASH
  2216 0SET MINUS;0ASTERISK OPERATOR;0RING OPERATOR;0BULLET OPERATOR;0SQUARE ROOT;0CUBE ROOT
  221C 0FOURTH ROOT;0PROPORTIONAL TO;0INFINITY;0r ANGLE;0ANGLE;0MEASURED ANGLE;0SPHERICAL ANGLE
  2223 0DIVIDES;0DOES NOT DIVIDE;0PARALLEL TO;0NOT PARALLEL TO;0LOGICAL h;1OR;0INTERSECTION;0UNION
  222B 0INTEGRAL;0d INTEGRAL;0TRIPLE INTEGRAL;0CONTOUR INTEGRAL;0SURFACE INTEGRAL;0VOLUME INTEGRAL
  2231 0CLOCKWISE INTEGRAL;1CONTOUR INTEGRAL;0ANTICLOCKWISE CONTOUR INTEGRAL;0THEREFORE;0BECAUSE
  2236 0RATIO;0PROPORTION;0DOT MINUS;0EXCESS;0GEOMETRIC PROPORTION;0HOMOTHETIC;0TILDE OPERATOR
  223D 0REVERSED TILDE;0INVERTED LAZY S;0SINE WAVE;0WREATH PRODUCT;0NOT TILDE;0MINUS TILDE
  2243 0ASYMPTOTICALLY EQUAL TO;0NOT ASYMPTOTICALLY EQUAL TO;0APPROXIMATELY EQUAL TO
  2246 1BUT NOT ACTUALLY EQUAL TO;0NEITHER APPROXIMATELY NOR ACTUALLY EQUAL TO;0ALMOST EQUAL TO
  2249 0NOT ALMOST EQUAL TO;0ALMOST EQUAL OR EQUAL TO;0TRIPLE TILDE;0ALL EQUAL TO;0EQUIVALENT TO
  224E 0GEOMETRICALLY EQUIVALENT TO;0DIFFERENCE BETWEEN;0APPROACHES THE LIMIT
  2251 0GEOMETRICALLY EQUAL TO;0APPROXIMATELY EQUAL TO OR THE IMAGE OF
  2253 0IMAGE OF OR APPROXIMATELY EQUAL TO;0COLON EQUALS;0EQUALS COLON;0RING IN EQUAL TO;1EQUAL TO
  2258 0CORRESPONDS TO;0ESTIMATES;0EQUIANGULAR TO;0STAR EQUALS;0DELTA EQUAL TO
  225D 0EQUAL TO BY DEFINITION;0MEASURED BY;0QUESTIONED EQUAL TO;0NOT EQUAL TO;0IDENTICAL TO
  2262 0NOT IDENTICAL TO;0STRICTLY EQUIVALENT TO;0LESS-THAN OR EQUAL TO;0GREATER-THAN OR EQUAL TO
  2266 0LESS-THAN OVER EQUAL TO;0GREATER-THAN OVER EQUAL TO;0LESS-THAN BUT NOT EQUAL TO
  2269 0GREATER-THAN BUT NOT EQUAL TO;0MUCH LESS-THAN;1GREATER-THAN;0BETWEEN;0NOT EQUIVALENT TO
  226E 1LESS-THAN;1GREATER-THAN;0NEITHER LESS-THAN NOR EQUAL TO;1GREATER-THAN NOR EQUAL TO
  2272 0LESS-THAN OR EQUIVALENT TO;0GREATER-THAN OR EQUIVALENT TO
  2274 0NEITHER LESS-THAN NOR EQUIVALENT TO;1GREATER-THAN NOR EQUIVALENT TO
  2276 0LESS-THAN OR GREATER-THAN;0GREATER-THAN OR LESS-THAN;0NEITHER LESS-THAN NOR GREATER-THAN
  2279 1GREATER-THAN NOR LESS-THAN;0PRECEDES;0SUCCEEDS;0PRECEDES OR EQUAL TO;0SUCCEEDS OR EQUAL TO
  227E 0PRECEDES OR EQUIVALENT TO;0SUCCEEDS OR EQUIVALENT TO;0DOES NOT PRECEDE;2SUCCEED;0SUBSET OF
  2283 0SUPERSET OF;0NOT A SUBSET OF;2SUPERSET OF;0SUBSET OF OR EQUAL TO;0SUPERSET OF OR EQUAL TO
  2288 0NEITHER A SUBSET OF NOR EQUAL TO;2SUPERSET OF NOR EQUAL TO;0SUBSET OF w NOT EQUAL TO
  228B 0SUPERSET OF w NOT EQUAL TO;0MULTISET;1MULTIPLICATION;1UNION;0SQUARE IMAGE OF;1ORIGINAL OF
  2291 1IMAGE OF OR EQUAL TO;1ORIGINAL OF OR EQUAL TO;1CAP;1CUP;0CIRCLED PLUS;1MINUS;1TIMES
  2298 1DIVISION SLASH;1DOT OPERATOR;1RING OPERATOR;1ASTERISK OPERATOR;1EQUALS;1DASH;0SQUARED PLUS
  229F 1MINUS;1TIMES;1DOT OPERATOR;0r TACK;0t TACK;0DOWN TACK;0UP TACK;0ASSERTION;0MODELS;0TRUE
  22A9 0FORCES;0TRIPLE v BAR r TURNSTILE;0d v BAR d r TURNSTILE;0DOES NOT PROVE;0NOT TRUE
  22AE 0DOES NOT FORCE;0NEGATED d v BAR d r TURNSTILE;0PRECEDES UNDER RELATION
  22B1 0SUCCEEDS UNDER RELATION;0NORMAL SUBGROUP OF;0CONTAINS AS NORMAL SUBGROUP
  22B4 0NORMAL SUBGROUP OF OR EQUAL TO;0CONTAINS AS NORMAL SUBGROUP OR EQUAL TO;0ORIGINAL OF
  22B7 0IMAGE OF;0MULTIMAP;0HERMITIAN CONJUGATE MATRIX;0INTERCALATE;0XOR;0NAND;0NOR;0r ANGLE w ARC
  22BF 1TRIANGLE;0N-ARY LOGICAL h;2OR;1INTERSECTION;1UNION;0DIAMOND OPERATOR;0DOT OPERATOR
  22C6 0STAR OPERATOR;0DIVISION TIMES;0BOWTIE;0t NORMAL FACTOR SEMIDIRECT PRODUCT
  22CA 0r NORMAL FACTOR SEMIDIRECT PRODUCT;0t SEMIDIRECT PRODUCT;0r SEMIDIRECT PRODUCT
  22CD 0REVERSED TILDE EQUALS;0CURLY LOGICAL OR;2h;0d SUBSET;1SUPERSET;1INTERSECTION;1UNION
  22D4 0PITCHFORK;0EQUAL h PARALLEL TO;0LESS-THAN w DOT;0GREATER-THAN w DOT;0VERY MUCH LESS-THAN
  22D9 2GREATER-THAN;0LESS-THAN EQUAL TO OR GREATER-THAN;0GREATER-THAN EQUAL TO OR LESS-THAN
  22DC 0EQUAL TO OR LESS-THAN;3GREATER-THAN;3PRECEDES;3SUCCEEDS;0DOES NOT PRECEDE OR EQUAL
  22E1 2SUCCEED OR EQUAL;0NOT SQUARE IMAGE OF OR EQUAL TO;2ORIGINAL OF OR EQUAL TO
  22E4 0SQUARE IMAGE OF OR NOT EQUAL TO;1ORIGINAL OF OR NOT EQUAL TO
  22E6 0LESS-THAN BUT NOT EQUIVALENT TO;0GREATER-THAN BUT NOT EQUIVALENT TO
  22E8 0PRECEDES BUT NOT EQUIVALENT TO;0SUCCEEDS BUT NOT EQUIVALENT TO;0NOT NORMAL SUBGROUP OF
  22EB 0DOES NOT CONTAIN AS NORMAL SUBGROUP;0NOT NORMAL SUBGROUP OF OR EQUAL TO
  22ED 0DOES NOT CONTAIN AS NORMAL SUBGROUP OR EQUAL;0v ELLIPSIS;0MIDLINE z ELLIPSIS
  22F0 0UP r DIAGONAL ELLIPSIS;0DOWN r DIAGONAL ELLIPSIS;0ELEMENT OF w LONG z q
  22F3 3v BAR AT END OF z q;0s ELEMENT OF w v BAR AT END OF z q;0ELEMENT OF w DOT b;3OVERBAR
  22F7 0s ELEMENT OF w OVERBAR;0ELEMENT OF w UNDERBAR;3TWO z STROKES;0CONTAINS w LONG z q
  22FB 2v BAR AT END OF z q;0s CONTAINS w v BAR AT END OF z q;0CONTAINS w OVERBAR
  22FE 0s CONTAINS w OVERBAR;0Z NOTATION BAG MEMBERSHIP;0DIAMETER i;0ELECTRIC a;0HOUSE
  2303 0UP ARROWHEAD;0DOWN ARROWHEAD;0PROJECTIVE;0PERSPECTIVE;0WAVY LINE;0t CEILING;0r CEILING
  230A 0t FLOOR;0r FLOOR;0BOTTOM r CROP;1t CROP;0TOP r CROP;1t CROP;0REVERSED NOT i
  2311 0SQUARE LOZENGE;0ARC;0SEGMENT;0SECTOR;0TELEPHONE RECORDER;0POSITION INDICATOR
  2317 0VIEWDATA SQUARE;0PLACE OF INTEREST i;0TURNED NOT i;0WATCH;0HOURGLASS;0TOP t CORNER
  231D 1r CORNER;0BOTTOM t CORNER;1r CORNER;0TOP HALF INTEGRAL;0BOTTOM HALF INTEGRAL;0FROWN;0SMILE
  2324 0UP ARROWHEAD BETWEEN TWO z BARS;0OPTION KEY;0ERASE TO THE r;0X IN A RECTANGLE BOX
  2328 0KEYBOARD;0LEFT-POINTING ANGLE BRACKET;0RIGHT-POINTING ANGLE BRACKET;0ERASE TO THE t
  232C 0BENZENE RING;0CYLINDRICITY;0ALL AROUND-PROFILE;0SYMMETRY;0TOTAL RUNOUT;0DIMENSION ORIGIN
  2332 0CONICAL TAPER;0SLOPE;0COUNTERBORE;0COUNTERSINK;0APL FUNCTIONAL y I-BEAM;3SQUISH QUAD
  2338 3QUAD EQUAL;4DIVIDE;4DIAMOND;4JOT;4CIRCLE;3CIRCLE STILE;4JOT;3SLASH BAR;3BACKSLASH BAR
  2341 3QUAD SLASH;4BACKSLASH;4LESS-THAN;4GREATER-THAN;3j VANE;3g VANE;3QUAD j a;4g a
  2349 3CIRCLE BACKSLASH;3DOWN TACK UNDERBAR;3DELTA STILE;3QUAD DOWN CARET;4DELTA;3DOWN TACK JOT
  234F 3UPWARDS VANE;3QUAD UPWARDS a;3UP TACK OVERBAR;3DEL STILE;3QUAD UP CARET;4DEL;3UP TACK JOT
  2356 3DOWNWARDS VANE;3QUAD DOWNWARDS a;3QUOTE UNDERBAR;3DELTA UNDERBAR;3DIAMOND UNDERBAR
  235B 3JOT UNDERBAR;3CIRCLE UNDERBAR;3UP SHOE JOT;3QUOTE QUAD;3CIRCLE STAR;3QUAD COLON
  2361 3UP TACK DIAERESIS;3DEL DIAERESIS;3STAR DIAERESIS;3JOT DIAERESIS;3CIRCLE DIAERESIS
  2366 3DOWN SHOE STILE;3t SHOE STILE;3TILDE DIAERESIS;3GREATER-THAN DIAERESIS;3COMMA BAR
  236B 3DEL TILDE;3ZILDE;3STILE TILDE;3SEMICOLON UNDERBAR;3QUAD NOT EQUAL;4QUESTION
  2371 3DOWN CARET TILDE;3UP CARET TILDE;3IOTA;3RHO;3OMEGA;3ALPHA UNDERBAR;3EPSILON UNDERBAR
  2378 3IOTA UNDERBAR;3OMEGA UNDERBAR;3ALPHA;0NOT CHECK MARK;0r ANGLE w DOWNWARDS ZIGZAG a
  237D 0SHOULDERED OPEN BOX;0BELL y;0v LINE w MIDDLE DOT;0INSERTION y;0CONTINUOUS UNDERLINE y
  2382 0DISCONTINUOUS UNDERLINE y;0EMPHASIS y;0COMPOSITION y;0x SQUARE w CENTRE v LINE;0ENTER y
  2387 0ALTERNATIVE KEY y;0HELM y;0CIRCLED z BAR w NOTCH;1TRIANGLE DOWN
  238B 0BROKEN CIRCLE w NORTHWEST a;0UNDO y;0MONOSTABLE y;0HYSTERESIS y
  238F 0OPEN-CIRCUIT-OUTPUT H-TYPE y;1L-TYPE y;0PASSIVE-PULL-DOWN-OUTPUT y
  2392 0PASSIVE-PULL-UP-OUTPUT y;0DIRECT CURRENT y f TWO;0SOFTWARE-FUNCTION y
  2395 0APL FUNCTIONAL y QUAD;0DECIMAL SEPARATOR KEY y;0PREVIOUS PAGE;0NEXT PAGE;0PRINT SCREEN y
  239A 0CLEAR SCREEN y;0t PARENTHESIS UPPER HOOK;2EXTENSION;2LOWER HOOK;0r PARENTHESIS UPPER HOOK
  239F 2EXTENSION;2LOWER HOOK;0t SQUARE BRACKET UPPER CORNER;3EXTENSION;3LOWER CORNER
  23A4 0r SQUARE BRACKET UPPER CORNER;3EXTENSION;3LOWER CORNER;0t CURLY BRACKET UPPER HOOK
  23A8 3MIDDLE PIECE;3LOWER HOOK;0CURLY BRACKET EXTENSION;0r CURLY BRACKET UPPER HOOK
  23AC 3MIDDLE PIECE;3LOWER HOOK;0INTEGRAL EXTENSION;0z LINE EXTENSION
  23B0 0UPPER t OR LOWER r CURLY BRACKET SECTION;1r OR LOWER t CURLY BRACKET SECTION
  23B2 0SUMMATION TOP;1BOTTOM;0TOP SQUARE BRACKET;0BOTTOM SQUARE BRACKET;3OVER TOP SQUARE BRACKET
  23B7 0RADICAL y BOTTOM;0t v BOX LINE;0r v BOX LINE;0z SCAN LINE-1;2LINE-3;2LINE-7;2LINE-9
  23BE 0DENTISTRY y LIGHT v h TOP r;5BOTTOM r;4w CIRCLE;3DOWN h z w CIRCLE;3UP h z w CIRCLE
  23C3 3v w TRIANGLE;3DOWN h z w TRIANGLE;3UP h z w TRIANGLE;3v h WAVE;3DOWN h z w WAVE
  23C8 3UP h z w WAVE;3DOWN h z;3UP h z;3v h TOP t;5BOTTOM t;0SQUARE FOOT;0RETURN y;0EJECT y
  23D0 0v LINE EXTENSION;0METRICAL BREVE;1LONG OVER SHORT;1SHORT OVER LONG;1LONG OVER TWO SHORTS
  23D5 1TWO SHORTS OVER LONG;3JOINED;1TRISEME;1TETRASEME;1PENTASEME;0EARTH GROUND;0FUSE
  23DC 0TOP PARENTHESIS;0BOTTOM PARENTHESIS;0TOP CURLY BRACKET;0BOTTOM CURLY BRACKET
  23E0 0TOP TORTOISE SHELL BRACKET;0BOTTOM TORTOISE SHELL BRACKET;0x TRAPEZIUM
  23E3 0BENZENE RING w CIRCLE;0STRAIGHTNESS;0FLATNESS;0AC CURRENT;0ELECTRICAL INTERSECTION
  23E8 0DECIMAL EXPONENT y;0u RIGHT-POINTING d TRIANGLE;1LEFT-POINTING d TRIANGLE
  23EB 1UP-POINTING d TRIANGLE;1DOWN-POINTING d TRIANGLE;1RIGHT-POINTING d TRIANGLE w v BAR
  23EE 1LEFT-POINTING d TRIANGLE w v BAR;1RIGHT-POINTING TRIANGLE w d v BAR;0ALARM CLOCK
  23F1 0STOPWATCH;0TIMER CLOCK;0HOURGLASS w FLOWING SAND;0u MEDIUM LEFT-POINTING TRIANGLE
  23F5 2RIGHT-POINTING TRIANGLE;2UP-POINTING TRIANGLE;2DOWN-POINTING TRIANGLE;0d v BAR
  23F9 0u SQUARE FOR STOP;1CIRCLE FOR RECORD;0POWER y;1ON-OFF y;1ON y;1SLEEP y;0OBSERVER EYE y
  2400 0y FOR NULL;2START OF HEADING;4TEXT;2END OF TEXT;4TRANSMISSION;2ENQUIRY;2ACKNOWLEDGE;2BELL
  2408 2BACKSPACE;2z TABULATION;2LINE FEED;2v TABULATION;2f FEED;2CARRIAGE RETURN;2SHIFT OUT;3IN
  2410 2DATA LINK ESCAPE;2DEVICE CONTROL ONE;4TWO;4m;4FOUR;2NEGATIVE ACKNOWLEDGE;2SYNCHRONOUS IDLE
  2417 2END OF TRANSMISSION BLOCK;2CANCEL;2END OF MEDIUM;2SUBSTITUTE;2ESCAPE;2FILE SEPARATOR
  241D 2GROUP SEPARATOR;2RECORD SEPARATOR;2UNIT SEPARATOR;2SPACE;2DELETE;0BLANK y;0OPEN BOX
  2424 0y FOR NEWLINE;2DELETE f TWO;2SUBSTITUTE f TWO
  2440 0OCR HOOK;1CHAIR;1FORK;1INVERTED FORK;1BELT BUCKLE;1BOW TIE;1BRANCH BANK IDENTIFICATION
  2447 1AMOUNT OF CHECK;1DASH;1CUSTOMER ACCOUNT NUMBER;1d BACKSLASH
  2460 0CIRCLED DIGIT ONE;2TWO;2m;2FOUR;2FIVE;2SIX;2SEVEN;2EIGHT;2NINE;1NUMBER TEN;2ELEVEN;2TWELVE
  246C 2THIRTEEN;2FOURTEEN;2FIFTEEN;2SIXTEEN;2SEVENTEEN;2EIGHTEEN;2NINETEEN;2TWENTY
  2474 0PARENTHESIZED DIGIT ONE;2TWO;2m;2FOUR;2FIVE;2SIX;2SEVEN;2EIGHT;2NINE;1NUMBER TEN;2ELEVEN
  247F 2TWELVE;2THIRTEEN;2FOURTEEN;2FIFTEEN;2SIXTEEN;2SEVENTEEN;2EIGHTEEN;2NINETEEN;2TWENTY
  2488 0DIGIT ONE FULL STOP;1TWO FULL STOP;1m FULL STOP;1FOUR FULL STOP;1FIVE FULL STOP
  248D 1SIX FULL STOP;1SEVEN FULL STOP;1EIGHT FULL STOP;1NINE FULL STOP;0NUMBER TEN FULL STOP
  2492 1ELEVEN FULL STOP;1TWELVE FULL STOP;1THIRTEEN FULL STOP;1FOURTEEN FULL STOP
  2496 1FIFTEEN FULL STOP;1SIXTEEN FULL STOP;1SEVENTEEN FULL STOP;1EIGHTEEN FULL STOP
  249A 1NINETEEN FULL STOP;1TWENTY FULL STOP;0PARENTHESIZED LATIN s l A;4B;4C;4D;4E;4F;4G;4H;4I;4J
  24A6 4K;4L;4M;4N;4O;4P;4Q;4R;4S;4T;4U;4V;4W;4X;4Y;4Z;0CIRCLED LATIN c l A;4B;4C;4D;4E;4F;4G;4H
  24BE 4I;4J;4K;4L;4M;4N;4O;4P;4Q;4R;4S;4T;4U;4V;4W;4X;4Y;4Z;2s l A;4B;4C;4D;4E;4F;4G;4H;4I;4J;4K
  24DB 4L;4M;4N;4O;4P;4Q;4R;4S;4T;4U;4V;4W;4X;4Y;4Z;1DIGIT ZERO;0NEGATIVE CIRCLED NUMBER ELEVEN
  24EC 3TWELVE;3THIRTEEN;3FOURTEEN;3FIFTEEN;3SIXTEEN;3SEVENTEEN;3EIGHTEEN;3NINETEEN;3TWENTY
  24F5 0d CIRCLED DIGIT ONE;3TWO;3m;3FOUR;3FIVE;3SIX;3SEVEN;3EIGHT;3NINE;2NUMBER TEN
  24FF 0NEGATIVE CIRCLED DIGIT ZERO;0BOX DRAWINGS LIGHT z;2HEAVY z;2LIGHT v;2HEAVY v
  2504 2LIGHT TRIPLE DASH z;2HEAVY TRIPLE DASH z;2LIGHT TRIPLE DASH v;2HEAVY TRIPLE DASH v
  2508 2LIGHT QUADRUPLE DASH z;2HEAVY QUADRUPLE DASH z;2LIGHT QUADRUPLE DASH v
  250B 2HEAVY QUADRUPLE DASH v;2LIGHT DOWN h r;2DOWN LIGHT h r HEAVY;3HEAVY h r LIGHT
  250F 2HEAVY DOWN h r;2LIGHT DOWN h t;2DOWN LIGHT h t HEAVY;3HEAVY h t LIGHT;2HEAVY DOWN h t
  2514 2LIGHT UP h r;2UP LIGHT h r HEAVY;3HEAVY h r LIGHT;2HEAVY UP h r;2LIGHT UP h t
  2519 2UP LIGHT h t HEAVY;3HEAVY h t LIGHT;2HEAVY UP h t;2LIGHT v h r;2v LIGHT h r HEAVY
  251E 2UP HEAVY h r DOWN LIGHT;2DOWN HEAVY h r UP LIGHT;2v HEAVY h r LIGHT
  2521 2DOWN LIGHT h r UP HEAVY;2UP LIGHT h r DOWN HEAVY;2HEAVY v h r;2LIGHT v h t
  2525 2v LIGHT h t HEAVY;2UP HEAVY h t DOWN LIGHT;2DOWN HEAVY h t UP LIGHT;2v HEAVY h t LIGHT
  2529 2DOWN LIGHT h t UP HEAVY;2UP LIGHT h t DOWN HEAVY;2HEAVY v h t;2LIGHT DOWN h z
  252D 2t HEAVY h r DOWN LIGHT;2r HEAVY h t DOWN LIGHT;2DOWN LIGHT h z HEAVY;3HEAVY h z LIGHT
  2531 2r LIGHT h t DOWN HEAVY;2t LIGHT h r DOWN HEAVY;2HEAVY DOWN h z;2LIGHT UP h z
  2535 2t HEAVY h r UP LIGHT;2r HEAVY h t UP LIGHT;2UP LIGHT h z HEAVY;3HEAVY h z LIGHT
  2539 2r LIGHT h t UP HEAVY;2t LIGHT h r UP HEAVY;2HEAVY UP h z;2LIGHT v h z;2t HEAVY h r v LIGHT
  253E 2r HEAVY h t v LIGHT;2v LIGHT h z HEAVY;2UP HEAVY h DOWN z LIGHT;2DOWN HEAVY h UP z LIGHT
  2542 2v HEAVY h z LIGHT;2t UP HEAVY h r DOWN LIGHT;2r UP HEAVY h t DOWN LIGHT
  2545 2t DOWN HEAVY h r UP LIGHT;2r DOWN HEAVY h t UP LIGHT;2DOWN LIGHT h UP z HEAVY
  2548 2UP LIGHT h DOWN z HEAVY;2r LIGHT h t v HEAVY;2t LIGHT h r v HEAVY;2HEAVY v h z
  254C 2LIGHT d DASH z;2HEAVY d DASH z;2LIGHT d DASH v;2HEAVY d DASH v;2d z;3v;2DOWN SINGLE h r d
  2553 3d h r SINGLE;2d DOWN h r;2DOWN SINGLE h t d;3d h t SINGLE;2d DOWN h t;2UP SINGLE h r d
  2559 3d h r SINGLE;2d UP h r;2UP SINGLE h t d;3d h t SINGLE;2d UP h t;2v SINGLE h r d
  255F 3d h r SINGLE;2d v h r;2v SINGLE h t d;3d h t SINGLE;2d v h t;2DOWN SINGLE h z d
  2565 3d h z SINGLE;2d DOWN h z;2UP SINGLE h z d;3d h z SINGLE;2d UP h z;2v SINGLE h z d
  256B 3d h z SINGLE;2d v h z;2LIGHT ARC DOWN h r;6t;4UP h t;6r;3DIAGONAL UPPER r TO LOWER t
  2572 5t TO LOWER r;4CROSS;3t;3UP;3r;3DOWN;2HEAVY t;3UP;3r;3DOWN;2LIGHT t h HEAVY r
  257D 3UP h HEAVY DOWN;2HEAVY t h LIGHT r;3UP h LIGHT DOWN;0UPPER HALF BLOCK
  2581 0LOWER ONE EIGHTH BLOCK;2QUARTER BLOCK;1m EIGHTHS BLOCK;1HALF BLOCK;1FIVE EIGHTHS BLOCK
  2586 1m QUARTERS BLOCK;1SEVEN EIGHTHS BLOCK;0FULL BLOCK;0t SEVEN EIGHTHS BLOCK;1m QUARTERS BLOCK
  258B 1FIVE EIGHTHS BLOCK;1HALF BLOCK;1m EIGHTHS BLOCK;1ONE QUARTER BLOCK;2EIGHTH BLOCK
  2590 0r HALF BLOCK;0LIGHT SHADE;0MEDIUM SHADE;0DARK SHADE;0UPPER ONE EIGHTH BLOCK
  2595 0r ONE EIGHTH BLOCK;0QUADRANT LOWER t;2r;1UPPER t;3h LOWER t h LOWER r;5r
  259B 4UPPER r h LOWER t;8r;2r;3h LOWER t;6h LOWER r;0u SQUARE;0x SQUARE;2w ROUNDED CORNERS
  25A3 2CONTAINING u s SQUARE;0SQUARE w z FILL;2v FILL;2ORTHOGONAL CROSSHATCH FILL
  25A7 2UPPER t TO LOWER r FILL;3r TO LOWER t FILL;2DIAGONAL CROSSHATCH FILL;0u s SQUARE
  25AB 0x s SQUARE;0u RECTANGLE;0x RECTANGLE;0u v RECTANGLE;0x v RECTANGLE;0u PARALLELOGRAM
  25B1 0x PARALLELOGRAM;0u UP-POINTING TRIANGLE;0x UP-POINTING TRIANGLE;0u UP-POINTING s TRIANGLE
  25B5 0x UP-POINTING s TRIANGLE;0u RIGHT-POINTING TRIANGLE;0x RIGHT-POINTING TRIANGLE
  25B8 0u RIGHT-POINTING s TRIANGLE;0x RIGHT-POINTING s TRIANGLE;0u RIGHT-POINTING POINTER
  25BB 0x RIGHT-POINTING POINTER;0u DOWN-POINTING TRIANGLE;0x DOWN-POINTING TRIANGLE
  25BE 0u DOWN-POINTING s TRIANGLE;0x DOWN-POINTING s TRIANGLE;0u LEFT-POINTING TRIANGLE
  25C1 0x LEFT-POINTING TRIANGLE;0u LEFT-POINTING s TRIANGLE;0x LEFT-POINTING s TRIANGLE
  25C4 0u LEFT-POINTING POINTER;0x LEFT-POINTING POINTER;0u DIAMOND;0x DIAMOND
  25C8 2CONTAINING u s DIAMOND;0FISHEYE;0LOZENGE;0x CIRCLE;0DOTTED CIRCLE;0CIRCLE w v FILL
  25CE 0BULLSEYE;0u CIRCLE;0CIRCLE w t HALF u;2r HALF u;2LOWER HALF u;2UPPER HALF u;3r QUADRANT u
  25D5 2ALL BUT UPPER t QUADRANT u;0t HALF u CIRCLE;0r HALF u CIRCLE;0INVERSE BULLET;1x CIRCLE
  25DA 0UPPER HALF INVERSE x CIRCLE;0LOWER HALF INVERSE x CIRCLE;0UPPER t QUADRANT CIRCULAR ARC
  25DD 1r QUADRANT CIRCULAR ARC;0LOWER r QUADRANT CIRCULAR ARC;1t QUADRANT CIRCULAR ARC
  25E0 0UPPER HALF CIRCLE;0LOWER HALF CIRCLE;0u LOWER r TRIANGLE;2t TRIANGLE;1UPPER t TRIANGLE
  25E5 2r TRIANGLE;0x BULLET;0SQUARE w t HALF u;2r HALF u;2UPPER t DIAGONAL HALF u
  25EA 2LOWER r DIAGONAL HALF u;0x SQUARE w v BISECTING LINE;1UP-POINTING TRIANGLE w DOT
  25ED 0UP-POINTING TRIANGLE w t HALF u;3r HALF u;0LARGE CIRCLE;0x SQUARE w UPPER t QUADRANT
  25F1 3LOWER t QUADRANT;4r QUADRANT;3UPPER r QUADRANT;1CIRCLE w UPPER t QUADRANT
  25F5 3LOWER t QUADRANT;4r QUADRANT;3UPPER r QUADRANT;0UPPER t TRIANGLE;1r TRIANGLE
  25FA 0LOWER t TRIANGLE;0x MEDIUM SQUARE;0u MEDIUM SQUARE;0x MEDIUM s SQUARE;0u MEDIUM s SQUARE
  25FF 0LOWER r TRIANGLE;0u SUN w RAYS;0CLOUD;0UMBRELLA;0SNOWMAN;0COMET;0u STAR;0x STAR;0LIGHTNING
  2608 0THUNDERSTORM;0SUN;0ASCENDING NODE;0DESCENDING NODE;0CONJUNCTION;0OPPOSITION;0u TELEPHONE
  260F 0x TELEPHONE;0BALLOT BOX;2w CHECK;3X;0SALTIRE;0UMBRELLA w RAIN DROPS;0HOT BEVERAGE
  2616 0x SHOGI PIECE;0u SHOGI PIECE;0SHAMROCK;0REVERSED ROTATED FLORAL HEART BULLET
  261A 0u t POINTING INDEX;1r POINTING INDEX;0x t POINTING INDEX;1UP POINTING INDEX
  261E 1r POINTING INDEX;1DOWN POINTING INDEX;0SKULL h CROSSBONES;0CAUTION i;0RADIOACTIVE i
  2623 0BIOHAZARD i;0CADUCEUS;0ANKH;0ORTHODOX CROSS;0CHI RHO;0CROSS OF LORRAINE;2JERUSALEM
  262A 0STAR h CRESCENT;0FARSI y;0ADI SHAKTI;0HAMMER h SICKLE;0PEACE y;0YIN YANG
  2630 0TRIGRAM FOR HEAVEN;2LAKE;2FIRE;2THUNDER;2WIND;2WATER;2MOUNTAIN;2EARTH;0WHEEL OF DHARMA
  2639 0x FROWNING FACE;1SMILING FACE;0u SMILING FACE;0x SUN w RAYS;0FIRST QUARTER MOON
  263E 0LAST QUARTER MOON;0MERCURY;0FEMALE i;0EARTH;0MALE i;0JUPITER;0SATURN;0URANUS;0NEPTUNE
  2647 0PLUTO;0ARIES;0TAURUS;0GEMINI;0CANCER;0LEO;0VIRGO;0LIBRA;0SCORPIUS;0SAGITTARIUS;0CAPRICORN
  2652 0AQUARIUS;0PISCES;0x CHESS KING;2QUEEN;2ROOK;2BISHOP;2KNIGHT;2PAWN;0u CHESS KING;2QUEEN
  265C 2ROOK;2BISHOP;2KNIGHT;2PAWN;1SPADE SUIT;0x HEART SUIT;1DIAMOND SUIT;0u CLUB SUIT
  2664 0x SPADE SUIT;0u HEART SUIT;1DIAMOND SUIT;0x CLUB SUIT;0HOT SPRINGS;0QUARTER NOTE
  266A 0EIGHTH NOTE;0BEAMED EIGHTH NOTES;1SIXTEENTH NOTES;0MUSIC FLAT i;1NATURAL i;1SHARP i
  2670 0WEST SYRIAC CROSS;0EAST SYRIAC CROSS;0UNIVERSAL RECYCLING y
  2673 0RECYCLING y FOR TYPE-1 PLASTICS;3TYPE-2 PLASTICS;3TYPE-3 PLASTICS;3TYPE-4 PLASTICS
  2677 3TYPE-5 PLASTICS;3TYPE-6 PLASTICS;3TYPE-7 PLASTICS;3GENERIC MATERIALS
  267B 0u UNIVERSAL RECYCLING y;0RECYCLED PAPER y;0PARTIALLY-RECYCLED PAPER y;0PERMANENT PAPER i
  267F 0WHEELCHAIR y;0DIE FACE-1;1FACE-2;1FACE-3;1FACE-4;1FACE-5;1FACE-6;0x CIRCLE w DOT r
  2687 3TWO DOTS;0u CIRCLE w x DOT r;3TWO x DOTS;0MONOGRAM FOR YANG;2YIN;0DIGRAM FOR GREATER YANG
  268D 2LESSER YIN;3YANG;2GREATER YIN;0x FLAG;0u FLAG;0HAMMER h PICK;0ANCHOR;0CROSSED SWORDS
  2695 0STAFF OF AESCULAPIUS;0SCALES;0ALEMBIC;0FLOWER;0GEAR;0STAFF OF HERMES;0ATOM y;0FLEUR-DE-LIS
  269D 0OUTLINED x STAR;0m LINES CONVERGING r;3t;0WARNING i;0HIGH VOLTAGE i;0DOUBLED FEMALE i
  26A3 1MALE i;0INTERLOCKED FEMALE h MALE i;0MALE h FEMALE i;1w q i;3h MALE h FEMALE i
  26A8 0v MALE w q i;0z MALE w q i;0MEDIUM x CIRCLE;1u CIRCLE;1s x CIRCLE;0MARRIAGE y;0DIVORCE y
  26AF 0UNMARRIED PARTNERSHIP y;0COFFIN;0FUNERAL URN;0NEUTER;0CERES;0PALLAS;0JUNO;0VESTA;0CHIRON
  26B8 0u MOON LILITH;0SEXTILE;0SEMISEXTILE;0QUINCUNX;0SESQUIQUADRATE;0SOCCER BALL;0BASEBALL
  26BF 0SQUARED KEY;0x DRAUGHTS MAN;2KING;0u DRAUGHTS MAN;2KING;0SNOWMAN WITHOUT SNOW
  26C5 0SUN BEHIND CLOUD;0RAIN;0u SNOWMAN;0THUNDER CLOUD h RAIN;0TURNED x SHOGI PIECE
  26CA 1u SHOGI PIECE;0x DIAMOND IN SQUARE;0CROSSING LANES;0DISABLED CAR;0OPHIUCHUS;0PICK
  26D0 0CAR SLIDING;0HELMET w x CROSS;0CIRCLED CROSSING LANES;0CHAINS;0NO ENTRY
  26D5 0ALTERNATE ONE-WAY t WAY TRAFFIC;0u TWO-WAY t WAY TRAFFIC;0x TWO-WAY t WAY TRAFFIC
  26D8 0u t LANE MERGE;0x t LANE MERGE;0DRIVE SLOW i;0HEAVY x DOWN-POINTING TRIANGLE
  26DC 0t CLOSED ENTRY;0SQUARED SALTIRE;0FALLING DIAGONAL IN x CIRCLE IN u SQUARE;0u TRUCK
  26E0 0RESTRICTED t ENTRY-1;2ENTRY-2;0ASTRONOMICAL y FOR URANUS;0HEAVY CIRCLE w q h TWO DOTS b
  26E4 0PENTAGRAM;0RIGHT-HANDED INTERLACED PENTAGRAM;0LEFT-HANDED INTERLACED PENTAGRAM
  26E7 0INVERTED PENTAGRAM;0u CROSS ON SHIELD;0SHINTO SHRINE;0CHURCH;0CASTLE;0HISTORIC SITE
  26ED 0GEAR WITHOUT HUB;1w HANDLES;0MAP y FOR LIGHTHOUSE;0MOUNTAIN;0UMBRELLA ON GROUND;0FOUNTAIN
  26F3 0FLAG IN HOLE;0FERRY;0SAILBOAT;0SQUARE FOUR CORNERS;0SKIER;0ICE SKATE;0PERSON w BALL;0TENT
  26FB 0JAPANESE BANK y;0HEADSTONE GRAVEYARD y;0FUEL PUMP;0CUP ON u SQUARE
  26FF 0x FLAG w z MIDDLE u STRIPE;0u SAFETY SCISSORS;0UPPER BLADE SCISSORS;0u SCISSORS
  2703 0LOWER BLADE SCISSORS;0x SCISSORS;1HEAVY CHECK MARK;0TELEPHONE LOCATION i;0TAPE DRIVE
  2708 0AIRPLANE;0ENVELOPE;0RAISED FIST;1HAND;0VICTORY HAND;0WRITING HAND;0LOWER r PENCIL;0PENCIL
  2710 0UPPER r PENCIL;0x NIB;0u NIB;0CHECK MARK;0HEAVY CHECK MARK;0MULTIPLICATION X
  2716 0HEAVY MULTIPLICATION X;0BALLOT X;0HEAVY BALLOT X;0OUTLINED GREEK CROSS;0HEAVY GREEK CROSS
  271B 0OPEN CENTRE CROSS;0HEAVY OPEN CENTRE CROSS;0LATIN CROSS;0SHADOWED x LATIN CROSS
  271F 0OUTLINED LATIN CROSS;0MALTESE CROSS;0STAR OF DAVID;0FOUR TEARDROP-SPOKED ASTERISK
  2723 1BALLOON-SPOKED ASTERISK;0HEAVY FOUR BALLOON-SPOKED ASTERISK;0FOUR CLUB-SPOKED ASTERISK
  2726 0u FOUR POINTED STAR;0x FOUR POINTED STAR;0SPARKLES;0STRESS OUTLINED x STAR;0CIRCLED x STAR
  272B 0OPEN CENTRE u STAR;0u CENTRE x STAR;0OUTLINED u STAR;0HEAVY OUTLINED u STAR;0PINWHEEL STAR
  2730 0SHADOWED x STAR;0HEAVY ASTERISK;0OPEN CENTRE ASTERISK;0EIGHT SPOKED ASTERISK
  2734 1POINTED u STAR;2PINWHEEL STAR;0SIX POINTED u STAR;0EIGHT POINTED RECTILINEAR u STAR
  2738 0HEAVY EIGHT POINTED RECTILINEAR u STAR;0TWELVE POINTED u STAR;0SIXTEEN POINTED ASTERISK
  273B 0TEARDROP-SPOKED ASTERISK;0OPEN CENTRE TEARDROP-SPOKED ASTERISK
  273D 0HEAVY TEARDROP-SPOKED ASTERISK;0SIX PETALLED u h x FLORETTE;0u FLORETTE;0x FLORETTE
  2741 0EIGHT PETALLED OUTLINED u FLORETTE;0CIRCLED OPEN CENTRE EIGHT POINTED STAR
  2743 0HEAVY TEARDROP-SPOKED PINWHEEL ASTERISK;0SNOWFLAKE;0TIGHT TRIFOLIATE SNOWFLAKE
  2746 0HEAVY CHEVRON SNOWFLAKE;0SPARKLE;0HEAVY SPARKLE;0BALLOON-SPOKED ASTERISK
  274A 0EIGHT TEARDROP-SPOKED PROPELLER ASTERISK;0HEAVY EIGHT TEARDROP-SPOKED PROPELLER ASTERISK
  274C 0CROSS MARK;0SHADOWED x CIRCLE;0NEGATIVE SQUARED CROSS MARK;0LOWER r DROP-SHADOWED x SQUARE
  2750 0UPPER r DROP-SHADOWED x SQUARE;0LOWER r SHADOWED x SQUARE;0UPPER r SHADOWED x SQUARE
  2753 0u QUESTION MARK ORNAMENT;0x QUESTION MARK ORNAMENT;1EXCLAMATION MARK ORNAMENT
  2756 0u DIAMOND MINUS x X;0HEAVY EXCLAMATION MARK y;0LIGHT v BAR;0MEDIUM v BAR;0HEAVY v BAR
  275B 1SINGLE TURNED COMMA QUOTATION MARK ORNAMENT;2COMMA QUOTATION MARK ORNAMENT
  275D 1d TURNED COMMA QUOTATION MARK ORNAMENT;2COMMA QUOTATION MARK ORNAMENT
  275F 1LOW SINGLE COMMA QUOTATION MARK ORNAMENT;2d COMMA QUOTATION MARK ORNAMENT
  2761 0CURVED STEM PARAGRAPH i ORNAMENT;0HEAVY EXCLAMATION MARK ORNAMENT
  2763 1HEART EXCLAMATION MARK ORNAMENT;1u HEART;0ROTATED HEAVY u HEART BULLET;0FLORAL HEART
  2767 0ROTATED FLORAL HEART BULLET;0MEDIUM t PARENTHESIS ORNAMENT;1r PARENTHESIS ORNAMENT
  276A 1FLATTENED t PARENTHESIS ORNAMENT;2r PARENTHESIS ORNAMENT
  276C 1LEFT-POINTING ANGLE BRACKET ORNAMENT;1RIGHT-POINTING ANGLE BRACKET ORNAMENT
  276E 0HEAVY LEFT-POINTING ANGLE QUOTATION MARK ORNAMENT
  276F 1RIGHT-POINTING ANGLE QUOTATION MARK ORNAMENT;1LEFT-POINTING ANGLE BRACKET ORNAMENT
  2771 1RIGHT-POINTING ANGLE BRACKET ORNAMENT;0LIGHT t TORTOISE SHELL BRACKET ORNAMENT
  2773 1r TORTOISE SHELL BRACKET ORNAMENT;0MEDIUM t CURLY BRACKET ORNAMENT
  2775 1r CURLY BRACKET ORNAMENT;0DINGBAT NEGATIVE CIRCLED DIGIT ONE;4TWO;4m;4FOUR;4FIVE;4SIX
  277C 4SEVEN;4EIGHT;4NINE;3NUMBER TEN;1CIRCLED SANS-SERIF DIGIT ONE;4TWO;4m;4FOUR;4FIVE;4SIX
  2786 4SEVEN;4EIGHT;4NINE;3NUMBER TEN;1NEGATIVE CIRCLED SANS-SERIF DIGIT ONE;5TWO;5m;5FOUR;5FIVE
  278F 5SIX;5SEVEN;5EIGHT;5NINE;4NUMBER TEN;0HEAVY WIDE-HEADED g a;1PLUS i;1MINUS i;1DIVISION i
  2798 1SOUTH EAST a;1g a;1NORTH EAST a;0DRAFTING POINT g a;0HEAVY ROUND-TIPPED g a;0p g a
  279E 0HEAVY p g a;0DASHED p g a;0HEAVY DASHED p g a;0u g a;0THREE-D TOP-LIGHTED g ARROWHEAD
  27A3 1BOTTOM-LIGHTED g ARROWHEAD;0u g ARROWHEAD;0HEAVY u CURVED DOWNWARDS h g a;3UPWARDS h g a
  27A7 0SQUAT u g a;0HEAVY CONCAVE-POINTED u g a;0RIGHT-SHADED x g a;0LEFT-SHADED x g a
  27AB 0BACK-TILTED SHADOWED x g a;0FRONT-TILTED SHADOWED x g a;0HEAVY LOWER RIGHT-SHADOWED x g a
  27AE 1UPPER RIGHT-SHADOWED x g a;0NOTCHED LOWER RIGHT-SHADOWED x g a;0CURLY LOOP
  27B1 0NOTCHED UPPER RIGHT-SHADOWED x g a;0CIRCLED HEAVY x g a;0WHITE-FEATHERED g a
  27B4 0BLACK-FEATHERED SOUTH EAST a;1g a;1NORTH EAST a;0HEAVY BLACK-FEATHERED SOUTH EAST a;2g a
  27B9 2NORTH EAST a;0TEARDROP-BARBED g a;0HEAVY TEARDROP-SHANKED g a;0WEDGE-TAILED g a
  27BD 0HEAVY WEDGE-TAILED g a;0OPEN-OUTLINED g a;0d CURLY LOOP;0m DIMENSIONAL ANGLE
  27C1 0x TRIANGLE CONTAINING s x TRIANGLE;0PERPENDICULAR;0OPEN SUBSET;1SUPERSET
  27C5 0t S-SHAPED BAG DELIMITER;0r S-SHAPED BAG DELIMITER;0OR w DOT INSIDE
  27C8 0REVERSE SOLIDUS PRECEDING SUBSET;0SUPERSET PRECEDING SOLIDUS;0v BAR w z q
  27CB 0MATHEMATICAL RISING DIAGONAL;0LONG DIVISION;0MATHEMATICAL FALLING DIAGONAL
  27CE 0SQUARED LOGICAL h;2OR;0x DIAMOND w CENTRED DOT;0h w DOT;0ELEMENT OF OPENING UPWARDS
  27D3 0LOWER r CORNER w DOT;0UPPER t CORNER w DOT;0t OUTER JOIN;0r OUTER JOIN;0FULL OUTER JOIN
  27D8 0LARGE UP TACK;1DOWN TACK;0t h r d TURNSTILE;3TACK;1MULTIMAP;0LONG r TACK;1t TACK
  27DF 0UP TACK w CIRCLE b;0LOZENGE DIVIDED BY z RULE;0x CONCAVE-SIDED DIAMOND;3w j TICK;4g TICK
  27E4 1SQUARE w j TICK;3g TICK;0MATHEMATICAL t x SQUARE BRACKET;1r x SQUARE BRACKET
  27E8 1t ANGLE BRACKET;1r ANGLE BRACKET;1t d ANGLE BRACKET;1r d ANGLE BRACKET
  27EC 1t x TORTOISE SHELL BRACKET;1r x TORTOISE SHELL BRACKET;1t FLATTENED PARENTHESIS
  27EF 1r FLATTENED PARENTHESIS;0UPWARDS QUADRUPLE a;0DOWNWARDS QUADRUPLE a
  27F2 0ANTICLOCKWISE GAPPED CIRCLE a;0CLOCKWISE GAPPED CIRCLE a;0r a w CIRCLED PLUS;0LONG j a
  27F6 1g a;1t r a;1j d a;1g d a;1t r d a;1j a FROM BAR;1g a FROM BAR;1j d a FROM BAR
  27FE 1g d a FROM BAR;2SQUIGGLE a;0BRAILLE PATTERN BLANK;2DOTS-1;2DOTS-2;2DOTS-12;2DOTS-3
  2805 2DOTS-13;2DOTS-23;2DOTS-123;2DOTS-4;2DOTS-14;2DOTS-24;2DOTS-124;2DOTS-34;2DOTS-134
  280E 2DOTS-234;2DOTS-1234;2DOTS-5;2DOTS-15;2DOTS-25;2DOTS-125;2DOTS-35;2DOTS-135;2DOTS-235
  2817 2DOTS-1235;2DOTS-45;2DOTS-145;2DOTS-245;2DOTS-1245;2DOTS-345;2DOTS-1345;2DOTS-2345
  281F 2DOTS-12345;2DOTS-6;2DOTS-16;2DOTS-26;2DOTS-126;2DOTS-36;2DOTS-136;2DOTS-236;2DOTS-1236
  2828 2DOTS-46;2DOTS-146;2DOTS-246;2DOTS-1246;2DOTS-346;2DOTS-1346;2DOTS-2346;2DOTS-12346
  2830 2DOTS-56;2DOTS-156;2DOTS-256;2DOTS-1256;2DOTS-356;2DOTS-1356;2DOTS-2356;2DOTS-12356
  2838 2DOTS-456;2DOTS-1456;2DOTS-2456;2DOTS-12456;2DOTS-3456;2DOTS-13456;2DOTS-23456;2DOTS-123456
  2840 2DOTS-7;2DOTS-17;2DOTS-27;2DOTS-127;2DOTS-37;2DOTS-137;2DOTS-237;2DOTS-1237;2DOTS-47
  2849 2DOTS-147;2DOTS-247;2DOTS-1247;2DOTS-347;2DOTS-1347;2DOTS-2347;2DOTS-12347;2DOTS-57
  2851 2DOTS-157;2DOTS-257;2DOTS-1257;2DOTS-357;2DOTS-1357;2DOTS-2357;2DOTS-12357;2DOTS-457
  2859 2DOTS-1457;2DOTS-2457;2DOTS-12457;2DOTS-3457;2DOTS-13457;2DOTS-23457;2DOTS-123457;2DOTS-67
  2861 2DOTS-167;2DOTS-267;2DOTS-1267;2DOTS-367;2DOTS-1367;2DOTS-2367;2DOTS-12367;2DOTS-467
  2869 2DOTS-1467;2DOTS-2467;2DOTS-12467;2DOTS-3467;2DOTS-13467;2DOTS-23467;2DOTS-123467;2DOTS-567
  2871 2DOTS-1567;2DOTS-2567;2DOTS-12567;2DOTS-3567;2DOTS-13567;2DOTS-23567;2DOTS-123567
  2878 2DOTS-4567;2DOTS-14567;2DOTS-24567;2DOTS-124567;2DOTS-34567;2DOTS-134567;2DOTS-234567
  287F 2DOTS-1234567;2DOTS-8;2DOTS-18;2DOTS-28;2DOTS-128;2DOTS-38;2DOTS-138;2DOTS-238;2DOTS-1238
  2888 2DOTS-48;2DOTS-148;2DOTS-248;2DOTS-1248;2DOTS-348;2DOTS-1348;2DOTS-2348;2DOTS-12348
  2890 2DOTS-58;2DOTS-158;2DOTS-258;2DOTS-1258;2DOTS-358;2DOTS-1358;2DOTS-2358;2DOTS-12358
  2898 2DOTS-458;2DOTS-1458;2DOTS-2458;2DOTS-12458;2DOTS-3458;2DOTS-13458;2DOTS-23458;2DOTS-123458
  28A0 2DOTS-68;2DOTS-168;2DOTS-268;2DOTS-1268;2DOTS-368;2DOTS-1368;2DOTS-2368;2DOTS-12368
  28A8 2DOTS-468;2DOTS-1468;2DOTS-2468;2DOTS-12468;2DOTS-3468;2DOTS-13468;2DOTS-23468;2DOTS-123468
  28B0 2DOTS-568;2DOTS-1568;2DOTS-2568;2DOTS-12568;2DOTS-3568;2DOTS-13568;2DOTS-23568;2DOTS-123568
  28B8 2DOTS-4568;2DOTS-14568;2DOTS-24568;2DOTS-124568;2DOTS-34568;2DOTS-134568;2DOTS-234568
  28BF 2DOTS-1234568;2DOTS-78;2DOTS-178;2DOTS-278;2DOTS-1278;2DOTS-378;2DOTS-1378;2DOTS-2378
  28C7 2DOTS-12378;2DOTS-478;2DOTS-1478;2DOTS-2478;2DOTS-12478;2DOTS-3478;2DOTS-13478;2DOTS-23478
  28CF 2DOTS-123478;2DOTS-578;2DOTS-1578;2DOTS-2578;2DOTS-12578;2DOTS-3578;2DOTS-13578;2DOTS-23578
  28D7 2DOTS-123578;2DOTS-4578;2DOTS-14578;2DOTS-24578;2DOTS-124578;2DOTS-34578;2DOTS-134578
  28DE 2DOTS-234578;2DOTS-1234578;2DOTS-678;2DOTS-1678;2DOTS-2678;2DOTS-12678;2DOTS-3678
  28E5 2DOTS-13678;2DOTS-23678;2DOTS-123678;2DOTS-4678;2DOTS-14678;2DOTS-24678;2DOTS-124678
  28EC 2DOTS-34678;2DOTS-134678;2DOTS-234678;2DOTS-1234678;2DOTS-5678;2DOTS-15678;2DOTS-25678
  28F3 2DOTS-125678;2DOTS-35678;2DOTS-135678;2DOTS-235678;2DOTS-1235678;2DOTS-45678;2DOTS-145678
  28FA 2DOTS-245678;2DOTS-1245678;2DOTS-345678;2DOTS-1345678;2DOTS-2345678;2DOTS-12345678
  2900 0g TWO-HEADED a w v q;4d v q;0j d a w v q;0g d a w v q;0t r d a w v q
  2905 0g TWO-HEADED a FROM BAR;0j d a FROM BAR;0g d a FROM BAR;0DOWNWARDS a w z q
  2909 0UPWARDS a w z q;1TRIPLE a;0DOWNWARDS TRIPLE a;0j d DASH a;0g d DASH a;0j TRIPLE DASH a
  290F 0g TRIPLE DASH a;1TWO-HEADED TRIPLE DASH a;1a w DOTTED STEM;0UPWARDS a TO BAR
  2913 0DOWNWARDS a TO BAR;0g a w TAIL w v q;5d v q;1TWO-HEADED a w TAIL;5w v q;6d v q
  2919 0j ARROW-TAIL;0g ARROW-TAIL;0j d ARROW-TAIL;0g d ARROW-TAIL;0j a TO u DIAMOND
  291E 0g a TO u DIAMOND;0j a FROM BAR TO u DIAMOND;0g a FROM BAR TO u DIAMOND
  2921 0NORTH WEST h SOUTH EAST a;1EAST h SOUTH WEST a;1WEST a w HOOK;1EAST a w HOOK
  2925 0SOUTH EAST a w HOOK;1WEST a w HOOK;0NORTH WEST a h NORTH EAST a;1EAST a h SOUTH EAST a
  2929 0SOUTH EAST a h SOUTH WEST a;1WEST a h NORTH WEST a
  292B 0RISING DIAGONAL CROSSING FALLING DIAGONAL;0FALLING DIAGONAL CROSSING RISING DIAGONAL
  292D 0SOUTH EAST a CROSSING NORTH EAST a;0NORTH EAST a CROSSING SOUTH EAST a
  292F 0FALLING DIAGONAL CROSSING NORTH EAST a;0RISING DIAGONAL CROSSING SOUTH EAST a
  2931 0NORTH EAST a CROSSING NORTH WEST a;1WEST a CROSSING NORTH EAST a
  2933 0WAVE a POINTING DIRECTLY r;0a POINTING g THEN CURVING UPWARDS;5DOWNWARDS
  2936 2DOWNWARDS THEN CURVING j;5g;0RIGHT-SIDE ARC CLOCKWISE a;0LEFT-SIDE ARC ANTICLOCKWISE a
  293A 0TOP ARC ANTICLOCKWISE a;0BOTTOM ARC ANTICLOCKWISE a;0TOP ARC CLOCKWISE a w MINUS
  293D 2ANTICLOCKWISE a w PLUS;0LOWER r SEMICIRCULAR CLOCKWISE a;1t SEMICIRCULAR ANTICLOCKWISE a
  2940 0ANTICLOCKWISE CLOSED CIRCLE a;0CLOCKWISE CLOSED CIRCLE a;0g a b SHORT j a;0j a b SHORT g a
  2944 0SHORT g a b j a;0g a w PLUS e;0j a w PLUS e;0g a THROUGH X;0t r a THROUGH s CIRCLE
  2949 0UPWARDS TWO-HEADED a FROM s CIRCLE;0t BARB UP r BARB DOWN HARPOON;2DOWN r BARB UP HARPOON
  294C 0UP BARB r DOWN BARB t HARPOON;2t DOWN BARB r HARPOON;0t BARB UP r BARB UP HARPOON
  294F 0UP BARB r DOWN BARB r HARPOON;0t BARB DOWN r BARB DOWN HARPOON
  2951 0UP BARB t DOWN BARB t HARPOON;0j HARPOON w BARB UP TO BAR;0g HARPOON w BARB UP TO BAR
  2954 0UPWARDS HARPOON w BARB r TO BAR;0DOWNWARDS HARPOON w BARB r TO BAR
  2956 0j HARPOON w BARB DOWN TO BAR;0g HARPOON w BARB DOWN TO BAR
  2958 0UPWARDS HARPOON w BARB t TO BAR;0DOWNWARDS HARPOON w BARB t TO BAR
  295A 0j HARPOON w BARB UP FROM BAR;0g HARPOON w BARB UP FROM BAR
  295C 0UPWARDS HARPOON w BARB r FROM BAR;0DOWNWARDS HARPOON w BARB r FROM BAR
  295E 0j HARPOON w BARB DOWN FROM BAR;0g HARPOON w BARB DOWN FROM BAR
  2960 0UPWARDS HARPOON w BARB t FROM BAR;0DOWNWARDS HARPOON w BARB t FROM BAR
  2962 0j HARPOON w BARB UP b j HARPOON w BARB DOWN
  2963 0UPWARDS HARPOON w BARB t BESIDE UPWARDS HARPOON w BARB r
  2964 0g HARPOON w BARB UP b g HARPOON w BARB DOWN
  2965 0DOWNWARDS HARPOON w BARB t BESIDE DOWNWARDS HARPOON w BARB r
  2966 0j HARPOON w BARB UP b g HARPOON w BARB UP;4DOWN b g HARPOON w BARB DOWN
  2968 0g HARPOON w BARB UP b j HARPOON w BARB UP;4DOWN b j HARPOON w BARB DOWN
  296A 0j HARPOON w BARB UP b LONG DASH;4DOWN e LONG DASH;0g HARPOON w BARB UP b LONG DASH
  296D 4DOWN e LONG DASH;0UPWARDS HARPOON w BARB t BESIDE DOWNWARDS HARPOON w BARB r
  296F 0DOWNWARDS HARPOON w BARB t BESIDE UPWARDS HARPOON w BARB r;0r d a w ROUNDED HEAD
  2971 0EQUALS i b g a;0TILDE OPERATOR b g a;0j a b TILDE OPERATOR;0g a b TILDE OPERATOR
  2975 3ALMOST EQUAL TO;0LESS-THAN b j a;0j a THROUGH LESS-THAN;0GREATER-THAN b g a;0SUBSET b g a
  297A 0j a THROUGH SUBSET;0SUPERSET b j a;0t FISH TAIL;0r FISH TAIL;0UP FISH TAIL;0DOWN FISH TAIL
  2980 0TRIPLE v BAR DELIMITER;0Z NOTATION SPOT;2TYPE COLON;0t x CURLY BRACKET;0r x CURLY BRACKET
  2985 0t x PARENTHESIS;0r x PARENTHESIS;0Z NOTATION t IMAGE BRACKET;2r IMAGE BRACKET
  2989 2t BINDING BRACKET;2r BINDING BRACKET;0t SQUARE BRACKET w UNDERBAR
  298C 0r SQUARE BRACKET w UNDERBAR;0t SQUARE BRACKET w TICK IN TOP CORNER
  298E 0r SQUARE BRACKET w TICK IN BOTTOM CORNER;0t SQUARE BRACKET w TICK IN BOTTOM CORNER
  2990 0r SQUARE BRACKET w TICK IN TOP CORNER;0t ANGLE BRACKET w DOT;0r ANGLE BRACKET w DOT
  2993 0t ARC LESS-THAN BRACKET;0r ARC GREATER-THAN BRACKET;0d t ARC GREATER-THAN BRACKET
  2996 1r ARC LESS-THAN BRACKET;0t u TORTOISE SHELL BRACKET;0r u TORTOISE SHELL BRACKET
  2999 0DOTTED FENCE;0v ZIGZAG LINE;0MEASURED ANGLE OPENING t;0r ANGLE VARIANT w SQUARE
  299D 0MEASURED r ANGLE w DOT;0ANGLE w S INSIDE;0ACUTE ANGLE;0SPHERICAL ANGLE OPENING t;3UP
  29A2 0TURNED ANGLE;0REVERSED ANGLE;0ANGLE w UNDERBAR;0REVERSED ANGLE w UNDERBAR
  29A6 0OBLIQUE ANGLE OPENING UP;3DOWN;0MEASURED ANGLE w OPEN ARM ENDING IN a POINTING UP h r
  29A9 9UP h t;9DOWN h r;9DOWN h t;9r h UP;9t h UP;9r h DOWN;9t h DOWN;0REVERSED EMPTY SET
  29B1 0EMPTY SET w OVERBAR;3s CIRCLE b;3r a b;3t a b;0CIRCLE w z BAR;0CIRCLED v BAR;1PARALLEL
  29B8 1REVERSE SOLIDUS;1PERPENDICULAR;0CIRCLE DIVIDED BY z BAR h TOP HALF DIVIDED BY v BAR
  29BB 1w SUPERIMPOSED X;0CIRCLED ANTICLOCKWISE-ROTATED DIVISION i;0UP a THROUGH CIRCLE
  29BE 0CIRCLED x BULLET;1BULLET;1LESS-THAN;1GREATER-THAN;0CIRCLE w s CIRCLE TO THE r
  29C3 2TWO z STROKES TO THE r;0SQUARED RISING DIAGONAL SLASH;1FALLING DIAGONAL SLASH;1ASTERISK
  29C7 1s CIRCLE;1SQUARE;0TWO JOINED SQUARES;0TRIANGLE w DOT b;2UNDERBAR;0S IN TRIANGLE
  29CD 0TRIANGLE w SERIFS AT BOTTOM;0r TRIANGLE b t TRIANGLE;0t TRIANGLE BESIDE v BAR
  29D0 0v BAR BESIDE r TRIANGLE;0BOWTIE w t HALF u;2r HALF u;0u BOWTIE;0TIMES w t HALF u;2r HALF u
  29D6 0x HOURGLASS;0u HOURGLASS;0t WIGGLY FENCE;0r WIGGLY FENCE;0t d WIGGLY FENCE
  29DB 0r d WIGGLY FENCE;0INCOMPLETE INFINITY;0TIE OVER INFINITY;0INFINITY NEGATED w v BAR
  29DF 0DOUBLE-ENDED MULTIMAP;0SQUARE w CONTOURED OUTLINE;0INCREASES AS;0SHUFFLE PRODUCT
  29E3 0EQUALS i h SLANTED PARALLEL;5w TILDE b;0IDENTICAL TO h SLANTED PARALLEL;0GLEICH STARK
  29E7 0THERMODYNAMIC;0DOWN-POINTING TRIANGLE w t HALF u;3r HALF u;0u DIAMOND w DOWN a;1LOZENGE
  29EC 0x CIRCLE w DOWN a;0u CIRCLE w DOWN a;0ERROR-BARRED x SQUARE;1u SQUARE;1x DIAMOND
  29F1 1u DIAMOND;1x CIRCLE;1u CIRCLE;0RULE-DELAYED;0REVERSE SOLIDUS OPERATOR;0SOLIDUS w OVERBAR
  29F7 0REVERSE SOLIDUS w z q;0BIG SOLIDUS;1REVERSE SOLIDUS;0d PLUS;0TRIPLE PLUS
  29FC 0LEFT-POINTING CURVED ANGLE BRACKET;0RIGHT-POINTING CURVED ANGLE BRACKET;0TINY;0MINY
  2A00 0N-ARY CIRCLED DOT OPERATOR;2PLUS OPERATOR;2TIMES OPERATOR;1UNION OPERATOR w DOT;4PLUS
  2A05 1SQUARE INTERSECTION OPERATOR;2UNION OPERATOR;0TWO LOGICAL h OPERATOR;2OR OPERATOR
  2A09 0N-ARY TIMES OPERATOR;0MODULO TWO SUM;0SUMMATION w INTEGRAL;0QUADRUPLE INTEGRAL OPERATOR
  2A0D 0FINITE PART INTEGRAL;0INTEGRAL w d q;1AVERAGE w SLASH;0CIRCULATION FUNCTION
  2A11 0ANTICLOCKWISE INTEGRATION;0LINE INTEGRATION w RECTANGULAR PATH AROUND POLE
  2A13 3SEMICIRCULAR PATH AROUND POLE;2NOT INCLUDING THE POLE;0INTEGRAL AROUND A POINT OPERATOR
  2A16 0QUATERNION INTEGRAL OPERATOR;0INTEGRAL w j a w HOOK;2TIMES i;2INTERSECTION;2UNION;2OVERBAR
  2A1C 2UNDERBAR;0JOIN;0LARGE t TRIANGLE OPERATOR;0Z NOTATION SCHEMA COMPOSITION;3PIPING
  2A21 3PROJECTION;0PLUS i w s CIRCLE b;3CIRCUMFLEX ACCENT b;3TILDE b;3DOT e;3TILDE e
  2A27 3SUBSCRIPT TWO;3u TRIANGLE;0MINUS i w COMMA b;3DOT e;3FALLING DOTS;3RISING DOTS
  2A2D 0PLUS i IN t HALF CIRCLE;3r HALF CIRCLE;0VECTOR OR CROSS PRODUCT;0MULTIPLICATION i w DOT b
  2A31 3UNDERBAR;0SEMIDIRECT PRODUCT w BOTTOM CLOSED;0SMASH PRODUCT
  2A34 0MULTIPLICATION i IN t HALF CIRCLE;3r HALF CIRCLE
  2A36 0CIRCLED MULTIPLICATION i w CIRCUMFLEX ACCENT;0MULTIPLICATION i IN d CIRCLE
  2A38 0CIRCLED DIVISION i;0PLUS i IN TRIANGLE;0MINUS i IN TRIANGLE;0MULTIPLICATION i IN TRIANGLE
  2A3C 0INTERIOR PRODUCT;0RIGHTHAND INTERIOR PRODUCT;0Z NOTATION RELATIONAL COMPOSITION
  2A3F 0AMALGAMATION OR COPRODUCT;0INTERSECTION w DOT;0UNION w MINUS i;2OVERBAR
  2A43 0INTERSECTION w OVERBAR;2LOGICAL h;0UNION w LOGICAL OR;1b INTERSECTION
  2A47 0INTERSECTION b UNION;0UNION b BAR b INTERSECTION;0INTERSECTION b BAR b UNION
  2A4A 0UNION BESIDE h JOINED w UNION;0INTERSECTION BESIDE h JOINED w INTERSECTION
  2A4C 0CLOSED UNION w SERIFS;1INTERSECTION w SERIFS;0d SQUARE INTERSECTION;2UNION
  2A50 0CLOSED UNION w SERIFS h SMASH PRODUCT;0LOGICAL h w DOT b;1OR w DOT b;0d LOGICAL h;2OR
  2A55 0TWO INTERSECTING LOGICAL h;3OR;0SLOPING LARGE OR;2h;0LOGICAL OR OVERLAPPING LOGICAL h
  2A5A 1h w MIDDLE STEM;1OR w MIDDLE STEM;1h w z DASH;1OR w z DASH;1h w d OVERBAR;3UNDERBAR
  2A60 3d UNDERBAR;0s VEE w UNDERBAR;0LOGICAL OR w d OVERBAR;4UNDERBAR
  2A64 0Z NOTATION DOMAIN ANTIRESTRICTION;2RANGE ANTIRESTRICTION;0EQUALS i w DOT e
  2A67 0IDENTICAL w DOT b;0TRIPLE z BAR w d v q;4TRIPLE v q;0TILDE OPERATOR w DOT b;3RISING DOTS
  2A6C 0SIMILAR MINUS SIMILAR;0CONGRUENT w DOT b;0EQUALS w ASTERISK
  2A6F 0ALMOST EQUAL TO w CIRCUMFLEX ACCENT;0APPROXIMATELY EQUAL OR EQUAL TO;0EQUALS i b PLUS i
  2A72 0PLUS i b EQUALS i;0EQUALS i b TILDE OPERATOR;0d COLON EQUAL;0TWO CONSECUTIVE EQUALS SIGNS
  2A76 0m CONSECUTIVE EQUALS SIGNS;0EQUALS i w TWO DOTS b h TWO DOTS e;0EQUIVALENT w FOUR DOTS b
  2A79 0LESS-THAN w CIRCLE INSIDE;0GREATER-THAN w CIRCLE INSIDE;0LESS-THAN w QUESTION MARK b
  2A7C 0GREATER-THAN w QUESTION MARK b;0LESS-THAN OR SLANTED EQUAL TO
  2A7E 0GREATER-THAN OR SLANTED EQUAL TO;0LESS-THAN OR SLANTED EQUAL TO w DOT INSIDE
  2A80 0GREATER-THAN OR SLANTED EQUAL TO w DOT INSIDE;0LESS-THAN OR SLANTED EQUAL TO w DOT b
  2A82 0GREATER-THAN OR SLANTED EQUAL TO w DOT b;0LESS-THAN OR SLANTED EQUAL TO w DOT b r
  2A84 0GREATER-THAN OR SLANTED EQUAL TO w DOT b t;0LESS-THAN OR APPROXIMATE
  2A86 0GREATER-THAN OR APPROXIMATE;0LESS-THAN h SINGLE-LINE NOT EQUAL TO
  2A88 0GREATER-THAN h SINGLE-LINE NOT EQUAL TO;0LESS-THAN h NOT APPROXIMATE
  2A8A 0GREATER-THAN h NOT APPROXIMATE;0LESS-THAN b DOUBLE-LINE EQUAL b GREATER-THAN
  2A8C 0GREATER-THAN b DOUBLE-LINE EQUAL b LESS-THAN;0LESS-THAN b SIMILAR OR EQUAL
  2A8E 0GREATER-THAN b SIMILAR OR EQUAL;0LESS-THAN b SIMILAR b GREATER-THAN
  2A90 0GREATER-THAN b SIMILAR b LESS-THAN;0LESS-THAN b GREATER-THAN b DOUBLE-LINE EQUAL
  2A92 0GREATER-THAN b LESS-THAN b DOUBLE-LINE EQUAL
  2A93 0LESS-THAN b SLANTED EQUAL b GREATER-THAN b SLANTED EQUAL
  2A94 0GREATER-THAN b SLANTED EQUAL b LESS-THAN b SLANTED EQUAL;0SLANTED EQUAL TO OR LESS-THAN
  2A96 4GREATER-THAN;4LESS-THAN w DOT INSIDE;4GREATER-THAN w DOT INSIDE
  2A99 0DOUBLE-LINE EQUAL TO OR LESS-THAN;4GREATER-THAN;1SLANTED EQUAL TO OR LESS-THAN
  2A9C 5GREATER-THAN;0SIMILAR OR LESS-THAN;2GREATER-THAN;1b LESS-THAN b EQUALS i
  2AA0 2GREATER-THAN b EQUALS i;0d NESTED LESS-THAN;2GREATER-THAN;2LESS-THAN w UNDERBAR
  2AA4 0GREATER-THAN OVERLAPPING LESS-THAN;1BESIDE LESS-THAN;0LESS-THAN CLOSED BY CURVE
  2AA7 0GREATER-THAN CLOSED BY CURVE;0LESS-THAN CLOSED BY CURVE b SLANTED EQUAL
  2AA9 0GREATER-THAN CLOSED BY CURVE b SLANTED EQUAL;0SMALLER THAN;0LARGER THAN
  2AAC 0SMALLER THAN OR EQUAL TO;0LARGER THAN OR EQUAL TO;0EQUALS i w BUMPY b
  2AAF 0PRECEDES b SINGLE-LINE EQUALS i;0SUCCEEDS b SINGLE-LINE EQUALS i
  2AB1 0PRECEDES b SINGLE-LINE NOT EQUAL TO;0SUCCEEDS b SINGLE-LINE NOT EQUAL TO
  2AB3 0PRECEDES b EQUALS i;0SUCCEEDS b EQUALS i;0PRECEDES b NOT EQUAL TO;0SUCCEEDS b NOT EQUAL TO
  2AB7 0PRECEDES b ALMOST EQUAL TO;0SUCCEEDS b ALMOST EQUAL TO;0PRECEDES b NOT ALMOST EQUAL TO
  2ABA 0SUCCEEDS b NOT ALMOST EQUAL TO;0d PRECEDES;1SUCCEEDS;0SUBSET w DOT;0SUPERSET w DOT
  2ABF 0SUBSET w PLUS i e;0SUPERSET w PLUS i e;0SUBSET w MULTIPLICATION i e
  2AC2 0SUPERSET w MULTIPLICATION i e;0SUBSET OF OR EQUAL TO w DOT b
  2AC4 0SUPERSET OF OR EQUAL TO w DOT b;0SUBSET OF b EQUALS i;0SUPERSET OF b EQUALS i
  2AC7 0SUBSET OF b TILDE OPERATOR;0SUPERSET OF b TILDE OPERATOR;0SUBSET OF b ALMOST EQUAL TO
  2ACA 0SUPERSET OF b ALMOST EQUAL TO;0SUBSET OF b NOT EQUAL TO;0SUPERSET OF b NOT EQUAL TO
  2ACD 0SQUARE t OPEN BOX OPERATOR;1r OPEN BOX OPERATOR;0CLOSED SUBSET;1SUPERSET
  2AD1 1SUBSET OR EQUAL TO;1SUPERSET OR EQUAL TO;0SUBSET b SUPERSET;0SUPERSET b SUBSET
  2AD5 0SUBSET b SUBSET;0SUPERSET b SUPERSET;1BESIDE SUBSET;2h JOINED BY DASH w SUBSET
  2AD9 0ELEMENT OF OPENING DOWNWARDS;0PITCHFORK w TEE TOP;0TRANSVERSAL INTERSECTION;0FORKING
  2ADD 0NONFORKING;0SHORT t TACK;1DOWN TACK;1UP TACK;0PERPENDICULAR w S;0v BAR TRIPLE r TURNSTILE
  2AE3 0d v BAR t TURNSTILE;0v BAR d t TURNSTILE;0d v BAR d t TURNSTILE
  2AE6 0LONG DASH FROM t MEMBER OF d v;0SHORT DOWN TACK w OVERBAR;1UP TACK w UNDERBAR
  2AE9 3b SHORT DOWN TACK;0d DOWN TACK;1UP TACK;1q NOT i;0REVERSED d q NOT i
  2AEE 0DOES NOT DIVIDE w REVERSED NEGATION SLASH;0v LINE w CIRCLE b;4e;0DOWN TACK w CIRCLE e
  2AF2 0PARALLEL w z q;2TILDE OPERATOR;0TRIPLE v BAR BINARY RELATION;3w z q;1COLON OPERATOR
  2AF7 1NESTED LESS-THAN;2GREATER-THAN;0DOUBLE-LINE SLANTED LESS-THAN OR EQUAL TO
  2AFA 2GREATER-THAN OR EQUAL TO;0TRIPLE SOLIDUS BINARY RELATION;0LARGE TRIPLE v BAR OPERATOR
  2AFD 0d SOLIDUS OPERATOR;0x v BAR;0N-ARY x v BAR;0NORTH EAST x a;1WEST x a;0SOUTH EAST x a
  2B03 1WEST x a;0t r x a;0j u a;0UPWARDS u a;0DOWNWARDS u a;0NORTH EAST u a;1WEST u a
  2B0A 0SOUTH EAST u a;1WEST u a;0t r u a;0UP DOWN u a;0g a w TIP DOWNWARDS;4UPWARDS
  2B10 0j a w TIP DOWNWARDS;4UPWARDS;0SQUARE w TOP HALF u;2BOTTOM HALF u;2UPPER r DIAGONAL HALF u
  2B15 2LOWER t DIAGONAL HALF u;0DIAMOND w t HALF u;2r HALF u;2TOP HALF u;2BOTTOM HALF u
  2B1A 0DOTTED SQUARE;0u LARGE SQUARE;0x LARGE SQUARE;0u VERY s SQUARE;0x VERY s SQUARE
  2B1F 0u PENTAGON;0x PENTAGON;1HEXAGON;0u HEXAGON;0z u HEXAGON;0u LARGE CIRCLE;1MEDIUM DIAMOND
  2B26 0x MEDIUM DIAMOND;0u MEDIUM LOZENGE;0x MEDIUM LOZENGE;0u s DIAMOND;2LOZENGE;0x s LOZENGE
  2B2C 0u z ELLIPSE;0x z ELLIPSE;0u v ELLIPSE;0x v ELLIPSE;0t a w s CIRCLE;0m j ARROWS
  2B32 0t a w CIRCLED PLUS;0LONG j SQUIGGLE a;0j TWO-HEADED a w v q;4d v q;3FROM BAR
  2B37 2TRIPLE DASH a;1a w DOTTED STEM;3TAIL w v q;5d v q;1TWO-HEADED a w TAIL;5w v q;6d v q
  2B3E 1a THROUGH X;0WAVE a POINTING DIRECTLY t;0EQUALS i b j a;0REVERSE TILDE OPERATOR b j a
  2B42 0j a b REVERSE ALMOST EQUAL TO;0g a THROUGH GREATER-THAN;3SUPERSET;0j QUADRUPLE a
  2B46 0g QUADRUPLE a;0REVERSE TILDE OPERATOR b g a;0g a b REVERSE ALMOST EQUAL TO
  2B49 0TILDE OPERATOR b j a;0j a b ALMOST EQUAL TO;3REVERSE TILDE OPERATOR
  2B4C 0g a b REVERSE TILDE OPERATOR;0DOWNWARDS p ZIGZAG a;0SHORT SLANTED NORTH a
  2B4F 1BACKSLANTED SOUTH a;0x MEDIUM STAR;0u s STAR;0x s STAR;0u RIGHT-POINTING PENTAGON
  2B54 0x RIGHT-POINTING PENTAGON;0HEAVY LARGE CIRCLE;1OVAL w OVAL INSIDE;1CIRCLE w CIRCLE INSIDE
  2B58 2;1CIRCLED SALTIRE;0SLANTED NORTH a w HOOKED HEAD;0BACKSLANTED SOUTH a w HOOKED TAIL
  2B5C 0SLANTED NORTH a w z TAIL;0BACKSLANTED SOUTH a w z TAIL
  2B5E 0BENT a POINTING DOWNWARDS THEN NORTH EAST;0SHORT BENT a POINTING DOWNWARDS THEN NORTH EAST
  2B60 0j p a;0UPWARDS p a;0g p a;0DOWNWARDS p a;0t r p a;0UP DOWN p a;0NORTH WEST p a;1EAST p a
  2B68 0SOUTH EAST p a;1WEST p a;0j p DASHED a;0UPWARDS p DASHED a;0g p DASHED a
  2B6D 0DOWNWARDS p DASHED a;0CLOCKWISE p OPEN CIRCLE a;0ANTICLOCKWISE p OPEN CIRCLE a
  2B70 0j p a TO BAR;0UPWARDS p a TO BAR;0g p a TO BAR;0DOWNWARDS p a TO BAR
  2B76 0NORTH WEST p a TO BAR;1EAST p a TO BAR;0SOUTH EAST p a TO BAR;1WEST p a TO BAR
  2B7A 0j p a w d z q;0UPWARDS p a w d z q;0g p a w d z q;0DOWNWARDS p a w d z q;0z TAB KEY
  2B7F 0v TAB KEY;0j p a OVER g p a;0UPWARDS p a j OF DOWNWARDS p a;0g p a OVER j p a
  2B83 0DOWNWARDS p a j OF UPWARDS p a;0j p PAIRED ARROWS;0UPWARDS p PAIRED ARROWS
  2B86 0g p PAIRED ARROWS;0DOWNWARDS p PAIRED ARROWS;0j u CIRCLED x a;0UPWARDS u CIRCLED x a
  2B8A 0g u CIRCLED x a;0DOWNWARDS u CIRCLED x a;0ANTICLOCKWISE p r U-SHAPED a;2BOTTOM U-SHAPED a
  2B8E 2t U-SHAPED a;2TOP U-SHAPED a;0RETURN t;1r;0NEWLINE t;1r
  2B94 0FOUR CORNER ARROWS CIRCLING ANTICLOCKWISE;0g u a
  2B97 0y FOR TYPE A ELECTRONICS;0THREE-D TOP-LIGHTED j EQUILATERAL ARROWHEAD
  2B99 1RIGHT-LIGHTED UPWARDS EQUILATERAL ARROWHEAD;1TOP-LIGHTED g EQUILATERAL ARROWHEAD
  2B9B 1LEFT-LIGHTED DOWNWARDS EQUILATERAL ARROWHEAD;0u j EQUILATERAL ARROWHEAD
  2B9D 1UPWARDS EQUILATERAL ARROWHEAD;1g EQUILATERAL ARROWHEAD;1DOWNWARDS EQUILATERAL ARROWHEAD
  2BA0 0DOWNWARDS p a w LONG TIP j;6g;0UPWARDS p a w LONG TIP j;6g;0j p a w LONG TIP UPWARDS
  2BA5 0g p a w LONG TIP UPWARDS;0j p a w LONG TIP DOWNWARDS;0g p a w LONG TIP DOWNWARDS
  2BA8 0u CURVED DOWNWARDS h j a;4g a;2UPWARDS h j a;4g a;2j h UPWARDS a;2g h UPWARDS a
  2BAE 2j h DOWNWARDS a;2g h DOWNWARDS a;0RIBBON a DOWN t;3r;2UP t;3r;2t UP;2r UP;2t DOWN;2r DOWN
  2BB8 0UPWARDS x a FROM BAR w z BAR;0UP ARROWHEAD IN A RECTANGLE BOX;0OVERLAPPING x SQUARES
  2BBB 2h u SQUARES;1u SQUARES;0BALLOT BOX w LIGHT X;0CIRCLED X;1BOLD X;0u SQUARE CENTRED
  2BC1 1DIAMOND CENTRED;0TURNED u PENTAGON;0z u OCTAGON;0u OCTAGON
  2BC5 1MEDIUM UP-POINTING TRIANGLE CENTRED;2DOWN-POINTING TRIANGLE CENTRED
  2BC7 2LEFT-POINTING TRIANGLE CENTRED;2RIGHT-POINTING TRIANGLE CENTRED;0NEPTUNE f TWO
  2BCA 0TOP HALF u CIRCLE;0BOTTOM HALF u CIRCLE;0LIGHT FOUR POINTED u CUSP
  2BCD 0ROTATED LIGHT FOUR POINTED u CUSP;0x FOUR POINTED CUSP;0ROTATED x FOUR POINTED CUSP
  2BD0 0SQUARE POSITION INDICATOR;0UNCERTAINTY i;0GROUP MARK;0PLUTO f TWO;2m;2FOUR;2FIVE
  2BD7 0TRANSPLUTO;0PROSERPINA;0ASTRAEA;0HYGIEA;0PHOLUS;0NESSUS;0x MOON SELENA;0u DIAMOND ON CROSS
  2BDF 0TRUE LIGHT MOON ARTA;0CUPIDO;0HADES;0ZEUS;0KRONOS;0APOLLON;0ADMETOS;0VULCANUS;0POSEIDON
  2BE8 0t HALF u STAR;0r HALF u STAR;0STAR w t HALF u;2r HALF u
  2BEC 0j TWO-HEADED a w TRIANGLE ARROWHEADS;0UPWARDS TWO-HEADED a w TRIANGLE ARROWHEADS
  2BEE 0g TWO-HEADED a w TRIANGLE ARROWHEADS;0DOWNWARDS TWO-HEADED a w TRIANGLE ARROWHEADS
  2BF0 0ERIS f ONE;2TWO;0SEDNA;0RUSSIAN ASTROLOGICAL y VIGINTILE;3NOVILE;3QUINTILE;3BINOVILE
  2BF7 3SENTAGON;3TREDECILE;0EQUALS i w INFINITY e;0UNITED y;0SEPARATED y;0DOUBLED y;0PASSED y
  2BFE 0REVERSED r ANGLE;0HELLSCHREIBER PAUSE y;0GLAGOLITIC c l AZU;3BUKY;3VEDE;3GLAGOLI;3DOBRO
  2C05 3YESTU;3ZHIVETE;3DZELO;3ZEMLJA;3IZHE;3k IZHE;3I;3DJERVI;3KAKO;3LJUDIJE;3MYSLITE;3NASHI;3ONU
  2C12 3POKOJI;3RITSI;3SLOVO;3TVRIDO;3UKU;3FRITU;3HERU;3OTU;3PE;3SHTA;3TSI;3CHRIVI;3SHA;3YERU
  2C20 3YERI;3YATI;3SPIDERY HA;3YU;3s YUS;5w TAIL;3YO;3IOTATED s YUS;3BIG YUS;3IOTATED BIG YUS
  2C2A 3FITA;3IZHITSA;3SHTAPIC;3TROKUTASTI A;3LATINATE MYSLITE;3CAUDATE CHRIVI;1s l AZU;3BUKY
  2C32 3VEDE;3GLAGOLI;3DOBRO;3YESTU;3ZHIVETE;3DZELO;3ZEMLJA;3IZHE;3k IZHE;3I;3DJERVI;3KAKO
  2C3E 3LJUDIJE;3MYSLITE;3NASHI;3ONU;3POKOJI;3RITSI;3SLOVO;3TVRIDO;3UKU;3FRITU;3HERU;3OTU;3PE
  2C4B 3SHTA;3TSI;3CHRIVI;3SHA;3YERU;3YERI;3YATI;3SPIDERY HA;3YU;3s YUS;5w TAIL;3YO;3IOTATED s YUS
  2C58 3BIG YUS;3IOTATED BIG YUS;3FITA;3IZHITSA;3SHTAPIC;3TROKUTASTI A;3LATINATE MYSLITE
  2C5F 3CAUDATE CHRIVI;0LATIN c l L w d BAR;1s l L w d BAR;1c l L w MIDDLE TILDE;3P w q;3R w TAIL
  2C65 1s l A w q;3T w DIAGONAL q;1c l H w DESCENDER;1s l H w DESCENDER;1c l K w DESCENDER
  2C6A 1s l K w DESCENDER;1c l Z w DESCENDER;1s l Z w DESCENDER;1c l ALPHA;3M w HOOK;3TURNED A
  2C70 4ALPHA;1s l V w r HOOK;1c l W w HOOK;1s l W w HOOK;3V w CURL;1c l HALF H;1s l HALF H
  2C77 3TAILLESS PHI;3E w NOTCH;3TURNED R w TAIL;3O w LOW RING INSIDE;1l s c TURNED E
  2C7C 1SUBSCRIPT s l J;0MODIFIER l c V;0LATIN c l S w SWASH TAIL;3Z w SWASH TAIL;0COPTIC c l ALFA
  2C81 1s l ALFA;1c l VIDA;1s l VIDA;1c l GAMMA;1s l GAMMA;1c l DALDA;1s l DALDA;1c l EIE;1s l EIE
  2C8A 1c l SOU;1s l SOU;1c l ZATA;1s l ZATA;1c l HATE;1s l HATE;1c l THETHE;1s l THETHE
  2C92 1c l IAUDA;1s l IAUDA;1c l KAPA;1s l KAPA;1c l LAULA;1s l LAULA;1c l MI;1s l MI;1c l NI
  2C9B 1s l NI;1c l KSI;1s l KSI;1c l O;1s l O;1c l PI;1s l PI;1c l RO;1s l RO;1c l SIMA;1s l SIMA
  2CA6 1c l TAU;1s l TAU;1c l UA;1s l UA;1c l FI;1s l FI;1c l KHI;1s l KHI;1c l PSI;1s l PSI
  2CB0 1c l OOU;1s l OOU;1c l DIALECT-P ALEF;1s l DIALECT-P ALEF;1c l OLD COPTIC AIN
  2CB5 1s l OLD COPTIC AIN;1c l CRYPTOGRAMMIC EIE;1s l CRYPTOGRAMMIC EIE;1c l DIALECT-P KAPA
  2CB9 1s l DIALECT-P KAPA;1c l DIALECT-P NI;1s l DIALECT-P NI;1c l CRYPTOGRAMMIC NI
  2CBD 1s l CRYPTOGRAMMIC NI;1c l OLD COPTIC OOU;1s l OLD COPTIC OOU;1c l SAMPI;1s l SAMPI
  2CC2 1c l CROSSED SHEI;1s l CROSSED SHEI;1c l OLD COPTIC SHEI;1s l OLD COPTIC SHEI
  2CC6 1c l OLD COPTIC ESH;1s l OLD COPTIC ESH;1c l AKHMIMIC KHEI;1s l AKHMIMIC KHEI
  2CCA 1c l DIALECT-P HORI;1s l DIALECT-P HORI;1c l OLD COPTIC HORI;1s l OLD COPTIC HORI
  2CCE 1c l OLD COPTIC HA;1s l OLD COPTIC HA;1c l L-SHAPED HA;1s l L-SHAPED HA;1c l OLD COPTIC HEI
  2CD3 1s l OLD COPTIC HEI;1c l OLD COPTIC HAT;1s l OLD COPTIC HAT;1c l OLD COPTIC GANGIA
  2CD7 1s l OLD COPTIC GANGIA;1c l OLD COPTIC DJA;1s l OLD COPTIC DJA;1c l OLD COPTIC SHIMA
  2CDB 1s l OLD COPTIC SHIMA;1c l OLD NUBIAN SHIMA;1s l OLD NUBIAN SHIMA;1c l OLD NUBIAN NGI
  2CDF 1s l OLD NUBIAN NGI;1c l OLD NUBIAN NYI;1s l OLD NUBIAN NYI;1c l OLD NUBIAN WAU
  2CE3 1s l OLD NUBIAN WAU;1y KAI;2MI RO;2PI RO;2STAUROS;2TAU RO;2KHI RO;2SHIMA SIMA
  2CEB 1c l CRYPTOGRAMMIC SHEI;1s l CRYPTOGRAMMIC SHEI;1c l CRYPTOGRAMMIC GANGIA
  2CEE 1s l CRYPTOGRAMMIC GANGIA;1COMBINING NI b;2SPIRITUS ASPER;3LENIS;1c l BOHAIRIC KHEI
  2CF3 1s l BOHAIRIC KHEI
  2CF9 1OLD NUBIAN FULL STOP;3DIRECT QUESTION MARK;3INDIRECT QUESTION MARK;3VERSE DIVIDER
  2CFD 1FRACTION ONE HALF;1FULL STOP;1MORPHOLOGICAL DIVIDER;0GEORGIAN s l AN;3BAN;3GAN;3DON;3EN
  2D05 3VIN;3ZEN;3TAN;3IN;3KAN;3LAS;3MAN;3NAR;3ON;3PAR;3ZHAR;3RAE;3SAN;3TAR;3UN;3PHAR;3KHAR;3GHAN
  2D17 3QAR;3SHIN;3CHIN;3CAN;3JIL;3CIL;3CHAR;3XAN;3JHAN;3HAE;3HE;3HIE;3WE;3HAR;3HOE
  2D27 3YN
  2D2D 3AEN
  2D30 0TIFINAGH l YA;2YAB;2YABH;2YAG;2YAGHH;2BERBER ACADEMY YAJ;2YAJ;2YAD;2YADH;2YADD;2YADDH;2YEY
  2D3C 2YAF;2YAK;2TUAREG YAK;2YAKHH;2YAH;2BERBER ACADEMY YAH;2TUAREG YAH;2YAHH;2YAA;2YAKH
  2D46 2TUAREG YAKH;2YAQ;2TUAREG YAQ;2YI;2YAZH;2AHAGGAR YAZH;2TUAREG YAZH;2YAL;2YAM;2YAN
  2D50 2TUAREG YAGN;3YANG;2YAP;2YU;2YAR;2YARR;2YAGH;2TUAREG YAGH;2AYER YAGH;2YAS;2YASS;2YASH;2YAT
  2D5D 2YATH;2YACH;2YATT;2YAV;2YAW;2YAY;2YAZ;2TAWELLEMET YAZ;2YAZZ;2YE;2YO
  2D6F 1MODIFIER l LABIALIZATION MARK;1SEPARATOR MARK
  2D7F 1CONSONANT JOINER;0ETHIOPIC SYLLABLE LOA;2MOA;2ROA;2SOA;2SHOA;2BOA;2TOA;2COA;2NOA;2NYOA
  2D8A 2GLOTTAL OA;2ZOA;2DOA;2DDOA;2JOA;2THOA;2CHOA;2PHOA;2POA;2GGWA;2GGWI;2GGWEE;2GGWE
  2DA0 2SSA;2SSU;2SSI;2SSAA;2SSEE;2SSE;2SSO
  2DA8 2CCA;2CCU;2CCI;2CCAA;2CCEE;2CCE;2CCO
  2DB0 2ZZA;2ZZU;2ZZI;2ZZAA;2ZZEE;2ZZE;2ZZO
  2DB8 2CCHA;2CCHU;2CCHI;2CCHAA;2CCHEE;2CCHE;2CCHO
  2DC0 2QYA;2QYU;2QYI;2QYAA;2QYEE;2QYE;2QYO
  2DC8 2KYA;2KYU;2KYI;2KYAA;2KYEE;2KYE;2KYO
  2DD0 2XYA;2XYU;2XYI;2XYAA;2XYEE;2XYE;2XYO
  2DD8 2GYA;2GYU;2GYI;2GYAA;2GYEE;2GYE;2GYO
  2DE0 0COMBINING CYRILLIC l BE;3VE;3GHE;3DE;3ZHE;3ZE;3KA;3EL;3EM;3EN;3O;3PE;3ER;3ES;3TE;3HA;3TSE
  2DF1 3CHE;3SHA;3SHCHA;3FITA;3ES-TE;3A;3IE;3DJERV;3MONOGRAPH UK;3YAT;3YU;3IOTIFIED A;3LITTLE YUS
  2DFE 3BIG YUS;3IOTIFIED BIG YUS;0r ANGLE SUBSTITUTION MARKER;2DOTTED SUBSTITUTION MARKER
  2E02 0t SUBSTITUTION BRACKET;0r SUBSTITUTION BRACKET;0t DOTTED SUBSTITUTION BRACKET
  2E05 0r DOTTED SUBSTITUTION BRACKET;0RAISED INTERPOLATION MARKER;1DOTTED INTERPOLATION MARKER
  2E08 0DOTTED TRANSPOSITION MARKER;0t TRANSPOSITION BRACKET;0r TRANSPOSITION BRACKET
  2E0B 0RAISED SQUARE;0t RAISED OMISSION BRACKET;0r RAISED OMISSION BRACKET;0EDITORIAL CORONIS
  2E0F 0PARAGRAPHOS;0FORKED PARAGRAPHOS;0REVERSED FORKED PARAGRAPHOS;0HYPODIASTOLE;0DOTTED OBELOS
  2E14 0DOWNWARDS ANCORA;0UPWARDS ANCORA;0DOTTED RIGHT-POINTING ANGLE;0d OBLIQUE HYPHEN
  2E18 0INVERTED INTERROBANG;0PALM BRANCH;0HYPHEN w DIAERESIS;0TILDE w RING b
  2E1C 0t LOW PARAPHRASE BRACKET;0r LOW PARAPHRASE BRACKET;0TILDE w DOT b;3e;0t v BAR w QUILL
  2E21 0r v BAR w QUILL;0TOP t HALF BRACKET;1r HALF BRACKET;0BOTTOM t HALF BRACKET;1r HALF BRACKET
  2E26 0t SIDEWAYS U BRACKET;0r SIDEWAYS U BRACKET;0t d PARENTHESIS;0r d PARENTHESIS
  2E2A 0TWO DOTS OVER ONE DOT PUNCTUATION;0ONE DOT OVER TWO DOTS PUNCTUATION
  2E2C 0SQUARED FOUR DOT PUNCTUATION;0FIVE DOT MARK;0REVERSED QUESTION MARK;0v TILDE;0RING POINT
  2E31 0WORD SEPARATOR MIDDLE DOT;0TURNED COMMA;0RAISED DOT;1COMMA;0TURNED SEMICOLON
  2E36 0DAGGER w t GUARD;2r GUARD;0TURNED DAGGER;0TOP HALF SECTION i;0TWO-EM DASH;0THREE-EM DASH
  2E3C 0STENOGRAPHIC FULL STOP;0v SIX DOTS;0WIGGLY v LINE;0CAPITULUM;0d HYPHEN;0REVERSED COMMA
  2E42 0d LOW-REVERSED-9 QUOTATION MARK;0DASH w t UPTURN;0d SUSPENSION MARK;0INVERTED LOW KAVYKA
  2E46 3w KAVYKA b;0LOW KAVYKA;2w DOT;0d STACKED COMMA;0DOTTED SOLIDUS;0TRIPLE DAGGER
  2E4C 0MEDIEVAL COMMA;0PARAGRAPHUS MARK;0PUNCTUS ELEVATUS MARK;0CORNISH VERSE DIVIDER
  2E50 0CROSS PATTY w r CROSSBAR;3t CROSSBAR;0TIRONIAN i c ET;0MEDIEVAL EXCLAMATION MARK
  2E54 1QUESTION MARK;0t SQUARE BRACKET w q;0r SQUARE BRACKET w q;0t SQUARE BRACKET w d q
  2E58 0r SQUARE BRACKET w d q;0TOP HALF t PARENTHESIS;2r PARENTHESIS;0BOTTOM HALF t PARENTHESIS
  2E5C 2r PARENTHESIS;0OBLIQUE HYPHEN
  2E80 0CJK RADICAL REPEAT;2CLIFF;2SECOND ONE;3TWO;3m;2PERSON;2BOX;2TABLE;2KNIFE ONE;3TWO
  2E8A 2DIVINATION;2SEAL;2s ONE;3TWO;2LAME ONE;3TWO;3m;3FOUR;2SNAKE;2THREAD;2SNOUT ONE;3TWO
  2E96 2HEART ONE;3TWO;2HAND;2RAP
  2E9B 2CHOKE;2SUN;2MOON;2DEATH;2MOTHER;2CIVILIAN;2WATER ONE;3TWO;2FIRE;2PAW ONE;3TWO
  2EA6 2SIMPLIFIED HALF TREE TRUNK;2COW;2DOG;2JADE;2BOLT OF CLOTH;2EYE;2SPIRIT ONE;3TWO;2BAMBOO
  2EAF 2SILK;2C-SIMPLIFIED SILK;2NET ONE;3TWO;3m;3FOUR;2MESH;2SHEEP;2RAM;2EWE;2OLD;2BRUSH ONE;3TWO
  2EBC 2MEAT;2MORTAR;2GRASS ONE;3TWO;3m;2TIGER;2CLOTHES;2WEST ONE;3TWO;2C-SIMPLIFIED SEE
  2EC6 2SIMPLIFIED HORN;2HORN;2C-SIMPLIFIED SPEECH;3SHELL;2FOOT;2C-SIMPLIFIED CART
  2ECC 2SIMPLIFIED WALK;2WALK ONE;3TWO;2CITY;2C-SIMPLIFIED GOLD;2LONG ONE;3TWO;2C-SIMPLIFIED LONG
  2ED4 3GATE;2MOUND ONE;3TWO;2RAIN;2BLUE;2C-SIMPLIFIED TANNED LEATHER;3LEAF;3WIND;3FLY;2EAT ONE
  2EDE 3TWO;3m;2C-SIMPLIFIED EAT;2HEAD;2C-SIMPLIFIED HORSE;2BONE;2GHOST;2C-SIMPLIFIED FISH;3BIRD
  2EE7 3SALT;2SIMPLIFIED WHEAT;3YELLOW;2C-SIMPLIFIED FROG;2J-SIMPLIFIED EVEN;2C-SIMPLIFIED EVEN
  2EED 2J-SIMPLIFIED TOOTH;2C-SIMPLIFIED TOOTH;2J-SIMPLIFIED DRAGON;2C-SIMPLIFIED DRAGON;2TURTLE
  2EF2 2J-SIMPLIFIED TURTLE;2C-SIMPLIFIED TURTLE
  2F00 0KANGXI RADICAL ONE;2LINE;2DOT;2SLASH;2SECOND;2HOOK;2TWO;2LID;2MAN;2LEGS;2ENTER;2EIGHT
  2F0C 2DOWN BOX;2COVER;2ICE;2TABLE;2OPEN BOX;2KNIFE;2POWER;2WRAP;2SPOON;2r OPEN BOX
  2F16 2HIDING ENCLOSURE;2TEN;2DIVINATION;2SEAL;2CLIFF;2PRIVATE;2AGAIN;2MOUTH;2ENCLOSURE;2EARTH
  2F20 2SCHOLAR;2GO;3SLOWLY;2EVENING;2BIG;2WOMAN;2CHILD;2ROOF;2INCH;2s;2LAME;2CORPSE;2SPROUT
  2F2D 2MOUNTAIN;2RIVER;2WORK;2ONESELF;2TURBAN;2DRY;2SHORT THREAD;2DOTTED CLIFF;2LONG STRIDE
  2F36 2TWO HANDS;2SHOOT;2BOW;2SNOUT;2BRISTLE;2STEP;2HEART;2HALBERD;2DOOR;2HAND;2BRANCH;2RAP
  2F42 2SCRIPT;2DIPPER;2AXE;2SQUARE;2NOT;2SUN;2SAY;2MOON;2TREE;2LACK;2STOP;2DEATH;2WEAPON;2DO NOT
  2F50 2COMPARE;2FUR;2CLAN;2STEAM;2WATER;2FIRE;2CLAW;2FATHER;2d X;2HALF TREE TRUNK;2SLICE;2FANG
  2F5C 2COW;2DOG;2PROFOUND;2JADE;2MELON;2TILE;2SWEET;2LIFE;2USE;2FIELD;2BOLT OF CLOTH;2SICKNESS
  2F68 2DOTTED TENT;2x;2SKIN;2DISH;2EYE;2SPEAR;2a;2STONE;2SPIRIT;2TRACK;2GRAIN;2CAVE;2STAND
  2F75 2BAMBOO;2RICE;2SILK;2JAR;2NET;2SHEEP;2FEATHER;2OLD;2h;2PLOW;2EAR;2BRUSH;2MEAT;2MINISTER
  2F83 2SELF;2ARRIVE;2MORTAR;2TONGUE;2OPPOSE;2BOAT;2STOPPING;2COLOR;2GRASS;2TIGER;2INSECT;2BLOOD
  2F8F 2WALK ENCLOSURE;2CLOTHES;2WEST;2SEE;2HORN;2SPEECH;2VALLEY;2BEAN;2PIG;2BADGER;2SHELL;2RED
  2F9B 2RUN;2FOOT;2BODY;2CART;2BITTER;2MORNING;2WALK;2CITY;2WINE;2DISTINGUISH;2VILLAGE;2GOLD;2LONG
  2FA8 2GATE;2MOUND;2SLAVE;2SHORT TAILED BIRD;2RAIN;2BLUE;2WRONG;2FACE;2LEATHER;2TANNED LEATHER
  2FB2 2LEEK;2SOUND;2LEAF;2WIND;2FLY;2EAT;2HEAD;2FRAGRANT;2HORSE;2BONE;2TALL;2HAIR;2FIGHT
  2FBF 2SACRIFICIAL WINE;2CAULDRON;2GHOST;2FISH;2BIRD;2SALT;2DEER;2WHEAT;2HEMP;2YELLOW;2MILLET;2u
  2FCB 2EMBROIDERY;2FROG;2TRIPOD;2DRUM;2RAT;2NOSE;2EVEN;2TOOTH;2DRAGON;2TURTLE;2FLUTE
  2FF0 0IDEOGRAPHIC DESCRIPTION CHARACTER t TO r;3b TO e;3t TO MIDDLE h r;3b TO MIDDLE h e
  2FF4 3FULL SURROUND;3SURROUND FROM b;5e;5t;5UPPER t;6r;5LOWER t;3OVERLAID"

end Dialect.Text.CharName
