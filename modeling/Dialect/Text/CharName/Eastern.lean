namespace Dialect.Text.CharName

-- Characters from 3000 to FFFF: East Asian, African and Indian scripts and forms of letters.
def eastern : String := "
  3000 0IDEOGRAPHIC SPACE;1COMMA;1FULL STOP;0DITTO MARK;0JAPANESE INDUSTRIAL STANDARD y
  3005 0IDEOGRAPHIC ITERATION MARK;1CLOSING MARK;1NUMBER ZERO;0t ANGLE BRACKET;0r ANGLE BRACKET
  300A 0t d ANGLE BRACKET;0r d ANGLE BRACKET;0t CORNER BRACKET;0r CORNER BRACKET
  300E 0t x CORNER BRACKET;0r x CORNER BRACKET;0t u LENTICULAR BRACKET;0r u LENTICULAR BRACKET
  3012 0POSTAL MARK;0GETA MARK;0t TORTOISE SHELL BRACKET;0r TORTOISE SHELL BRACKET
  3016 0t x LENTICULAR BRACKET;0r x LENTICULAR BRACKET;0t x TORTOISE SHELL BRACKET
  3019 0r x TORTOISE SHELL BRACKET;0t x SQUARE BRACKET;0r x SQUARE BRACKET;0WAVE DASH
  301D 0REVERSED d PRIME QUOTATION MARK;0d PRIME QUOTATION MARK;0LOW d PRIME QUOTATION MARK
  3020 0POSTAL MARK FACE;0HANGZHOU NUMERAL ONE;2TWO;2m;2FOUR;2FIVE;2SIX;2SEVEN;2EIGHT;2NINE
  302A 0IDEOGRAPHIC LEVEL TONE MARK;1RISING TONE MARK;1DEPARTING TONE MARK;1ENTERING TONE MARK
  302E 0HANGUL SINGLE DOT TONE MARK;1d DOT TONE MARK;0WAVY DASH;0v KANA REPEAT MARK
  3032 3w VOICED SOUND MARK;3MARK UPPER HALF;3w VOICED SOUND MARK UPPER HALF;3MARK LOWER HALF
  3036 0CIRCLED POSTAL MARK;0IDEOGRAPHIC TELEGRAPH LINE FEED SEPARATOR y;0HANGZHOU NUMERAL TEN
  3039 2TWENTY;2THIRTY;0v IDEOGRAPHIC ITERATION MARK;0MASU MARK;0PART ALTERNATION MARK
  303E 0IDEOGRAPHIC VARIATION INDICATOR;1HALF FILL SPACE
  3041 0HIRAGANA l s A;2A;2s I;2I;2s U;2U;2s E;2E;2s O;2O;2KA;2GA;2KI;2GI;2KU;2GU;2KE;2GE;2KO;2GO
  3055 2SA;2ZA;2SI;2ZI;2SU;2ZU;2SE;2ZE;2SO;2ZO;2TA;2DA;2TI;2DI;2s TU;2TU;2DU;2TE;2DE;2TO;2DO;2NA
  306B 2NI;2NU;2NE;2NO;2HA;2BA;2PA;2HI;2BI;2PI;2HU;2BU;2PU;2HE;2BE;2PE;2HO;2BO;2PO;2MA;2MI;2MU;2ME
  3082 2MO;2s YA;2YA;2s YU;2YU;2s YO;2YO;2RA;2RI;2RU;2RE;2RO;2s WA;2WA;2WI;2WE;2WO;2N;2VU;2s KA
  3096 3KE
  3099 0COMBINING KATAKANA-HIRAGANA VOICED SOUND MARK;2SEMI-VOICED SOUND MARK
  309B 0KATAKANA-HIRAGANA VOICED SOUND MARK;1SEMI-VOICED SOUND MARK;0HIRAGANA ITERATION MARK
  309E 1VOICED ITERATION MARK;1DIGRAPH YORI;0KATAKANA-HIRAGANA d HYPHEN;0KATAKANA l s A;2A;2s I;2I
  30A5 2s U;2U;2s E;2E;2s O;2O;2KA;2GA;2KI;2GI;2KU;2GU;2KE;2GE;2KO;2GO;2SA;2ZA;2SI;2ZI;2SU;2ZU;2SE
  30BC 2ZE;2SO;2ZO;2TA;2DA;2TI;2DI;2s TU;2TU;2DU;2TE;2DE;2TO;2DO;2NA;2NI;2NU;2NE;2NO;2HA;2BA;2PA
  30D2 2HI;2BI;2PI;2HU;2BU;2PU;2HE;2BE;2PE;2HO;2BO;2PO;2MA;2MI;2MU;2ME;2MO;2s YA;2YA;2s YU;2YU
  30E7 2s YO;2YO;2RA;2RI;2RU;2RE;2RO;2s WA;2WA;2WI;2WE;2WO;2N;2VU;2s KA;3KE;2VA;2VI;2VE;2VO
  30FB 1MIDDLE DOT;0KATAKANA-HIRAGANA PROLONGED SOUND MARK;0KATAKANA ITERATION MARK
  30FE 1VOICED ITERATION MARK;1DIGRAPH KOTO
  3105 0BOPOMOFO l B;2P;2M;2F;2D;2T;2N;2L;2G;2K;2H;2J;2Q;2X;2ZH;2CH;2SH;2R;2Z;2C;2S;2A;2O;2E;2EH
  311E 2AI;2EI;2AU;2OU;2AN;2EN;2ANG;2ENG;2ER;2I;2U;2IU;2V;2NG;2GN;2IH;2O w DOT b;2NN
  3131 0HANGUL l KIYEOK;2SSANGKIYEOK;2KIYEOK-SIOS;2NIEUN;2NIEUN-CIEUC;2NIEUN-HIEUH;2TIKEUT
  3138 2SSANGTIKEUT;2RIEUL;2RIEUL-KIYEOK;2RIEUL-MIEUM;2RIEUL-PIEUP;2RIEUL-SIOS;2RIEUL-THIEUTH
  313F 2RIEUL-PHIEUPH;2RIEUL-HIEUH;2MIEUM;2PIEUP;2SSANGPIEUP;2PIEUP-SIOS;2SIOS;2SSANGSIOS;2IEUNG
  3148 2CIEUC;2SSANGCIEUC;2CHIEUCH;2KHIEUKH;2THIEUTH;2PHIEUPH;2HIEUH;2A;2AE;2YA;2YAE;2EO;2E;2YEO
  3156 2YE;2O;2WA;2WAE;2OE;2YO;2U;2WEO;2WE;2WI;2YU;2EU;2YI;2I;1FILLER;1l SSANGNIEUN;2NIEUN-TIKEUT
  3167 2NIEUN-SIOS;2NIEUN-PANSIOS;2RIEUL-KIYEOK-SIOS;2RIEUL-TIKEUT;2RIEUL-PIEUP-SIOS
  316C 2RIEUL-PANSIOS;2RIEUL-YEORINHIEUH;2MIEUM-PIEUP;2MIEUM-SIOS;2MIEUM-PANSIOS;2KAPYEOUNMIEUM
  3172 2PIEUP-KIYEOK;2PIEUP-TIKEUT;2PIEUP-SIOS-KIYEOK;2PIEUP-SIOS-TIKEUT;2PIEUP-CIEUC
  3177 2PIEUP-THIEUTH;2KAPYEOUNPIEUP;2KAPYEOUNSSANGPIEUP;2SIOS-KIYEOK;2SIOS-NIEUN;2SIOS-TIKEUT
  317D 2SIOS-PIEUP;2SIOS-CIEUC;2PANSIOS;2SSANGIEUNG;2YESIEUNG;2YESIEUNG-SIOS;2YESIEUNG-PANSIOS
  3184 2KAPYEOUNPHIEUPH;2SSANGHIEUH;2YEORINHIEUH;2YO-YA;2YO-YAE;2YO-I;2YU-YEO;2YU-YE;2YU-I;2ARAEA
  318E 2ARAEAE
  3190 0IDEOGRAPHIC ANNOTATION LINKING MARK;2REVERSE MARK;2ONE MARK;2TWO MARK;2m MARK;2FOUR MARK
  3196 2TOP MARK;2MIDDLE MARK;2BOTTOM MARK;2FIRST MARK;2SECOND MARK;2THIRD MARK;2FOURTH MARK
  319D 2HEAVEN MARK;2EARTH MARK;2MAN MARK;0BOPOMOFO l BU;2ZI;2JI;2GU;2EE;2ENN;2OO;2ONN;2IR;2ANN
  31AA 2INN;2UNN;2IM;2NGG;2AINN;2AUNN;2AM;2OM;2ONG;2INNN;1n l P;3T;3K;3H;1l GH;2LH;2ZY;1n l G
  31BC 1l GW;2KW;2OE;2AH;0CJK q T;2WG;2XG;2BXG;2SW;2HZZ;2HZG;2HP;2HZWG;2SZWG;2HZT;2HZZP;2HPWG;2HZW
  31CE 2HZZZ;2N;2H;2S;2P;2SP;2D;2HZ;2HG;2SZ;2SWZ;2ST;2SG;2PD;2PZ;2TN;2SZZ;2SWG;2HXWG;2HZZZG;2PG;2Q
  31F0 0KATAKANA l s KU;3SI;3SU;3TO;3NU;3HA;3HI;3HU;3HE;3HO;3MU;3RA;3RI;3RU;3RE;3RO
  3200 0PARENTHESIZED HANGUL KIYEOK;2NIEUN;2TIKEUT;2RIEUL;2MIEUM;2PIEUP;2SIOS;2IEUNG;2CIEUC
  3209 2CHIEUCH;2KHIEUKH;2THIEUTH;2PHIEUPH;2HIEUH;2KIYEOK A;2NIEUN A;2TIKEUT A;2RIEUL A;2MIEUM A
  3213 2PIEUP A;2SIOS A;2IEUNG A;2CIEUC A;2CHIEUCH A;2KHIEUKH A;2THIEUTH A;2PHIEUPH A;2HIEUH A
  321C 2CIEUC U;1KOREAN CHARACTER OJEON;3O HU
  3220 1IDEOGRAPH ONE;2TWO;2m;2FOUR;2FIVE;2SIX;2SEVEN;2EIGHT;2NINE;2TEN;2MOON;2FIRE;2WATER;2WOOD
  322E 2METAL;2EARTH;2SUN;2STOCK;2HAVE;2SOCIETY;2NAME;2SPECIAL;2FINANCIAL;2CONGRATULATION;2LABOR
  3239 2REPRESENT;2CALL;2STUDY;2SUPERVISE;2ENTERPRISE;2RESOURCE;2ALLIANCE;2FESTIVAL;2REST;2SELF
  3243 2REACH;0CIRCLED IDEOGRAPH QUESTION;2KINDERGARTEN;2SCHOOL;2KOTO;1NUMBER TEN ON u SQUARE
  3249 2TWENTY ON u SQUARE;2THIRTY ON u SQUARE;2FORTY ON u SQUARE;2FIFTY ON u SQUARE
  324D 2SIXTY ON u SQUARE;2SEVENTY ON u SQUARE;2EIGHTY ON u SQUARE;0PARTNERSHIP i
  3251 0CIRCLED NUMBER TWENTY ONE;3TWO;3m;3FOUR;3FIVE;3SIX;3SEVEN;3EIGHT;3NINE;2THIRTY;3ONE;3TWO
  325D 3m;3FOUR;3FIVE;1HANGUL KIYEOK;2NIEUN;2TIKEUT;2RIEUL;2MIEUM;2PIEUP;2SIOS;2IEUNG;2CIEUC
  3269 2CHIEUCH;2KHIEUKH;2THIEUTH;2PHIEUPH;2HIEUH;2KIYEOK A;2NIEUN A;2TIKEUT A;2RIEUL A;2MIEUM A
  3273 2PIEUP A;2SIOS A;2IEUNG A;2CIEUC A;2CHIEUCH A;2KHIEUKH A;2THIEUTH A;2PHIEUPH A;2HIEUH A
  327C 1KOREAN CHARACTER CHAMKO;3JUEUI;1HANGUL IEUNG U;0KOREAN STANDARD y;0CIRCLED IDEOGRAPH ONE
  3281 2TWO;2m;2FOUR;2FIVE;2SIX;2SEVEN;2EIGHT;2NINE;2TEN;2MOON;2FIRE;2WATER;2WOOD;2METAL;2EARTH
  3290 2SUN;2STOCK;2HAVE;2SOCIETY;2NAME;2SPECIAL;2FINANCIAL;2CONGRATULATION;2LABOR;2SECRET;2MALE
  329B 2FEMALE;2SUITABLE;2EXCELLENT;2PRINT;2ATTENTION;2ITEM;2REST;2COPY;2CORRECT;2HIGH;2CENTRE
  32A6 2LOW;2t;2r;2MEDICINE;2RELIGION;2STUDY;2SUPERVISE;2ENTERPRISE;2RESOURCE;2ALLIANCE;2NIGHT
  32B1 1NUMBER THIRTY SIX;3SEVEN;3EIGHT;3NINE;2FORTY;3ONE;3TWO;3m;3FOUR;3FIVE;3SIX;3SEVEN;3EIGHT
  32BE 3NINE;2FIFTY;0IDEOGRAPHIC TELEGRAPH y FOR JANUARY;4FEBRUARY;4MARCH;4APRIL;4MAY;4JUNE;4JULY
  32C7 4AUGUST;4SEPTEMBER;4OCTOBER;4NOVEMBER;4DECEMBER;0SQUARE HG;1ERG;1EV;0LIMITED LIABILITY i
  32D0 0CIRCLED KATAKANA A;2I;2U;2E;2O;2KA;2KI;2KU;2KE;2KO;2SA;2SI;2SU;2SE;2SO;2TA;2TI;2TU;2TE;2TO
  32E4 2NA;2NI;2NU;2NE;2NO;2HA;2HI;2HU;2HE;2HO;2MA;2MI;2MU;2ME;2MO;2YA;2YU;2YO;2RA;2RI;2RU;2RE;2RO
  32FB 2WA;2WI;2WE;2WO;0SQUARE ERA NAME REIWA;1APAATO;1ARUHUA;1ANPEA;1AARU;1ININGU;1INTI;1UON
  3307 1ESUKUUDO;1EEKAA;1ONSU;1OOMU;1KAIRI;1KARATTO;1KARORII;1GARON;1GANMA;1GIGA;1GINII;1KYURII
  3313 1GIRUDAA;1KIRO;1KIROGURAMU;1KIROMEETORU;1KIROWATTO;1GURAMU;1GURAMUTON;1KURUZEIRO;1KUROONE
  331C 1KEESU;1KORUNA;1KOOPO;1SAIKURU;1SANTIIMU;1SIRINGU;1SENTI;1SENTO;1DAASU;1DESI;1DORU;1TON
  3328 1NANO;1NOTTO;1HAITU;1PAASENTO;1PAATU;1BAARERU;1PIASUTORU;1PIKURU;1PIKO;1BIRU;1HUARADDO
  3333 1HUIITO;1BUSSYERU;1HURAN;1HEKUTAARU;1PESO;1PENIHI;1HERUTU;1PENSU;1PEEZI;1BEETA;1POINTO
  333E 1BORUTO;1HON;1PONDO;1HOORU;1HOON;1MAIKURO;1MAIRU;1MAHHA;1MARUKU;1MANSYON;1MIKURON;1MIRI
  334A 1MIRIBAARU;1MEGA;1MEGATON;1MEETORU;1YAADO;1YAARU;1YUAN;1RITTORU;1RIRA;1RUPII;1RUUBURU;1REMU
  3356 1RENTOGEN;1WATTO;0IDEOGRAPHIC TELEGRAPH y FOR HOUR ZERO;5ONE;5TWO;5m;5FOUR;5FIVE;5SIX
  335F 5SEVEN;5EIGHT;5NINE;5TEN;5ELEVEN;5TWELVE;5THIRTEEN;5FOURTEEN;5FIFTEEN;5SIXTEEN;5SEVENTEEN
  336A 5EIGHTEEN;5NINETEEN;5TWENTY;5TWENTY-ONE;5TWENTY-TWO;5TWENTY-THREE;5TWENTY-FOUR;0SQUARE HPA
  3372 1DA;1AU;1BAR;1OV;1PC;1DM;2SQUARED;2CUBED;1IU;1ERA NAME HEISEI;3SYOUWA;3TAISYOU;3MEIZI
  337F 1CORPORATION;1PA AMPS;1NA;1MU A;1MA;1KA;1KB;1MB;1GB;1CAL;1KCAL;1PF;1NF;1MU F;2G;1MG;1KG;1HZ
  3391 1KHZ;1MHZ;1GHZ;1THZ;1MU L;1ML;1DL;1KL;1FM;1NM;1MU M;1MM;1CM;1KM;1MM SQUARED;1CM SQUARED
  33A1 1M SQUARED;1KM SQUARED;1MM CUBED;1CM CUBED;1M CUBED;1KM CUBED;1M OVER S;4SQUARED;1PA;1KPA
  33AB 1MPA;1GPA;1RAD;2OVER S;4SQUARED;1PS;1NS;1MU S;1MS;1PV;1NV;1MU V;1MV;1KV;1MV MEGA;1PW;1NW
  33BC 1MU W;1MW;1KW;1MW MEGA;1K OHM;1M OHM;1AM;1BQ;1CC;1CD;1C OVER KG;1CO;1DB;1GY;1HA;1HP;1IN;1KK
  33CE 1KM c;1KT;1LM;1LN;1LOG;1LX;1MB s;1MIL;1MOL;1PH;1PM;1PPM;1PR;1SR;1SV;1WB;1V OVER M;1A OVER M
  33E0 0IDEOGRAPHIC TELEGRAPH y FOR DAY ONE;5TWO;5m;5FOUR;5FIVE;5SIX;5SEVEN;5EIGHT;5NINE;5TEN
  33EA 5ELEVEN;5TWELVE;5THIRTEEN;5FOURTEEN;5FIFTEEN;5SIXTEEN;5SEVENTEEN;5EIGHTEEN;5NINETEEN
  33F3 5TWENTY;5TWENTY-ONE;5TWENTY-TWO;5TWENTY-THREE;5TWENTY-FOUR;5TWENTY-FIVE;5TWENTY-SIX
  33FA 5TWENTY-SEVEN;5TWENTY-EIGHT;5TWENTY-NINE;5THIRTY;5THIRTY-ONE;0SQUARE GAL
  4DC0 0HEXAGRAM FOR THE CREATIVE HEAVEN;3RECEPTIVE EARTH;2DIFFICULTY AT THE BEGINNING
  4DC3 2YOUTHFUL FOLLY;2WAITING;2CONFLICT;2THE ARMY;2HOLDING TOGETHER;2s TAMING;2TREADING;2PEACE
  4DCB 2STANDSTILL;2FELLOWSHIP;2GREAT POSSESSION;2MODESTY;2ENTHUSIASM;2FOLLOWING
  4DD1 2WORK ON THE DECAYED;2APPROACH;2CONTEMPLATION;2BITING THROUGH;2GRACE;2SPLITTING APART
  4DD7 2RETURN;2INNOCENCE;2GREAT TAMING;2MOUTH CORNERS;2GREAT PREPONDERANCE;2THE ABYSMAL WATER
  4DDD 3CLINGING FIRE;2INFLUENCE;2DURATION;2RETREAT;2GREAT POWER;2PROGRESS;2DARKENING OF THE LIGHT
  4DE4 2THE FAMILY;2OPPOSITION;2OBSTRUCTION;2DELIVERANCE;2DECREASE;2INCREASE;2BREAKTHROUGH
  4DEB 2COMING TO MEET;2GATHERING TOGETHER;2PUSHING UPWARD;2OPPRESSION;2THE WELL;2REVOLUTION
  4DF1 2THE CAULDRON;3AROUSING THUNDER;3KEEPING STILL MOUNTAIN;2DEVELOPMENT;2THE MARRYING MAIDEN
  4DF6 2ABUNDANCE;2THE WANDERER;3GENTLE WIND;3JOYOUS LAKE;2DISPERSION;2LIMITATION;2INNER TRUTH
  4DFD 2s PREPONDERANCE;2AFTER COMPLETION;2BEFORE COMPLETION
  A000 0YI SYLLABLE IT;2IX;2I;2IP;2IET;2IEX;2IE;2IEP;2AT;2AX;2A;2AP;2UOX;2UO;2UOP;2OT;2OX;2O;2OP
  A013 2EX;2E;2WU;2BIT;2BIX;2BI;2BIP;2BIET;2BIEX;2BIE;2BIEP;2BAT;2BAX;2BA;2BAP;2BUOX;2BUO;2BUOP
  A025 2BOT;2BOX;2BO;2BOP;2BEX;2BE;2BEP;2BUT;2BUX;2BU;2BUP;2BURX;2BUR;2BYT;2BYX;2BY;2BYP;2BYRX
  A037 2BYR;2PIT;2PIX;2PI;2PIP;2PIEX;2PIE;2PIEP;2PAT;2PAX;2PA;2PAP;2PUOX;2PUO;2PUOP;2POT;2POX;2PO
  A049 2POP;2PUT;2PUX;2PU;2PUP;2PURX;2PUR;2PYT;2PYX;2PY;2PYP;2PYRX;2PYR;2BBIT;2BBIX;2BBI;2BBIP
  A05A 2BBIET;2BBIEX;2BBIE;2BBIEP;2BBAT;2BBAX;2BBA;2BBAP;2BBUOX;2BBUO;2BBUOP;2BBOT;2BBOX;2BBO
  A068 2BBOP;2BBEX;2BBE;2BBEP;2BBUT;2BBUX;2BBU;2BBUP;2BBURX;2BBUR;2BBYT;2BBYX;2BBY;2BBYP;2NBIT
  A077 2NBIX;2NBI;2NBIP;2NBIEX;2NBIE;2NBIEP;2NBAT;2NBAX;2NBA;2NBAP;2NBOT;2NBOX;2NBO;2NBOP;2NBUT
  A086 2NBUX;2NBU;2NBUP;2NBURX;2NBUR;2NBYT;2NBYX;2NBY;2NBYP;2NBYRX;2NBYR;2HMIT;2HMIX;2HMI;2HMIP
  A095 2HMIEX;2HMIE;2HMIEP;2HMAT;2HMAX;2HMA;2HMAP;2HMUOX;2HMUO;2HMUOP;2HMOT;2HMOX;2HMO;2HMOP;2HMUT
  A0A4 2HMUX;2HMU;2HMUP;2HMURX;2HMUR;2HMYX;2HMY;2HMYP;2HMYRX;2HMYR;2MIT;2MIX;2MI;2MIP;2MIEX;2MIE
  A0B4 2MIEP;2MAT;2MAX;2MA;2MAP;2MUOT;2MUOX;2MUO;2MUOP;2MOT;2MOX;2MO;2MOP;2MEX;2ME;2MUT;2MUX;2MU
  A0C6 2MUP;2MURX;2MUR;2MYT;2MYX;2MY;2MYP;2FIT;2FIX;2FI;2FIP;2FAT;2FAX;2FA;2FAP;2FOX;2FO;2FOP;2FUT
  A0D9 2FUX;2FU;2FUP;2FURX;2FUR;2FYT;2FYX;2FY;2FYP;2VIT;2VIX;2VI;2VIP;2VIET;2VIEX;2VIE;2VIEP;2VAT
  A0EB 2VAX;2VA;2VAP;2VOT;2VOX;2VO;2VOP;2VEX;2VEP;2VUT;2VUX;2VU;2VUP;2VURX;2VUR;2VYT;2VYX;2VY;2VYP
  A0FE 2VYRX;2VYR;2DIT;2DIX;2DI;2DIP;2DIEX;2DIE;2DIEP;2DAT;2DAX;2DA;2DAP;2DUOX;2DUO;2DOT;2DOX;2DO
  A110 2DOP;2DEX;2DE;2DEP;2DUT;2DUX;2DU;2DUP;2DURX;2DUR;2TIT;2TIX;2TI;2TIP;2TIEX;2TIE;2TIEP;2TAT
  A122 2TAX;2TA;2TAP;2TUOT;2TUOX;2TUO;2TUOP;2TOT;2TOX;2TO;2TOP;2TEX;2TE;2TEP;2TUT;2TUX;2TU;2TUP
  A134 2TURX;2TUR;2DDIT;2DDIX;2DDI;2DDIP;2DDIEX;2DDIE;2DDIEP;2DDAT;2DDAX;2DDA;2DDAP;2DDUOX;2DDUO
  A143 2DDUOP;2DDOT;2DDOX;2DDO;2DDOP;2DDEX;2DDE;2DDEP;2DDUT;2DDUX;2DDU;2DDUP;2DDURX;2DDUR;2NDIT
  A152 2NDIX;2NDI;2NDIP;2NDIEX;2NDIE;2NDAT;2NDAX;2NDA;2NDAP;2NDOT;2NDOX;2NDO;2NDOP;2NDEX;2NDE
  A161 2NDEP;2NDUT;2NDUX;2NDU;2NDUP;2NDURX;2NDUR;2HNIT;2HNIX;2HNI;2HNIP;2HNIET;2HNIEX;2HNIE;2HNIEP
  A170 2HNAT;2HNAX;2HNA;2HNAP;2HNUOX;2HNUO;2HNOT;2HNOX;2HNOP;2HNEX;2HNE;2HNEP;2HNUT;2NIT;2NIX;2NI
  A180 2NIP;2NIEX;2NIE;2NIEP;2NAX;2NA;2NAP;2NUOX;2NUO;2NUOP;2NOT;2NOX;2NO;2NOP;2NEX;2NE;2NEP;2NUT
  A192 2NUX;2NU;2NUP;2NURX;2NUR;2HLIT;2HLIX;2HLI;2HLIP;2HLIEX;2HLIE;2HLIEP;2HLAT;2HLAX;2HLA;2HLAP
  A1A2 2HLUOX;2HLUO;2HLUOP;2HLOX;2HLO;2HLOP;2HLEX;2HLE;2HLEP;2HLUT;2HLUX;2HLU;2HLUP;2HLURX;2HLUR
  A1B1 2HLYT;2HLYX;2HLY;2HLYP;2HLYRX;2HLYR;2LIT;2LIX;2LI;2LIP;2LIET;2LIEX;2LIE;2LIEP;2LAT;2LAX;2LA
  A1C2 2LAP;2LUOT;2LUOX;2LUO;2LUOP;2LOT;2LOX;2LO;2LOP;2LEX;2LE;2LEP;2LUT;2LUX;2LU;2LUP;2LURX;2LUR
  A1D4 2LYT;2LYX;2LY;2LYP;2LYRX;2LYR;2GIT;2GIX;2GI;2GIP;2GIET;2GIEX;2GIE;2GIEP;2GAT;2GAX;2GA;2GAP
  A1E6 2GUOT;2GUOX;2GUO;2GUOP;2GOT;2GOX;2GO;2GOP;2GET;2GEX;2GE;2GEP;2GUT;2GUX;2GU;2GUP;2GURX;2GUR
  A1F8 2KIT;2KIX;2KI;2KIP;2KIEX;2KIE;2KIEP;2KAT;2KAX;2KA;2KAP;2KUOX;2KUO;2KUOP;2KOT;2KOX;2KO;2KOP
  A20A 2KET;2KEX;2KE;2KEP;2KUT;2KUX;2KU;2KUP;2KURX;2KUR;2GGIT;2GGIX;2GGI;2GGIEX;2GGIE;2GGIEP;2GGAT
  A21B 2GGAX;2GGA;2GGAP;2GGUOT;2GGUOX;2GGUO;2GGUOP;2GGOT;2GGOX;2GGO;2GGOP;2GGET;2GGEX;2GGE;2GGEP
  A22A 2GGUT;2GGUX;2GGU;2GGUP;2GGURX;2GGUR;2MGIEX;2MGIE;2MGAT;2MGAX;2MGA;2MGAP;2MGUOX;2MGUO;2MGUOP
  A239 2MGOT;2MGOX;2MGO;2MGOP;2MGEX;2MGE;2MGEP;2MGUT;2MGUX;2MGU;2MGUP;2MGURX;2MGUR;2HXIT;2HXIX
  A248 2HXI;2HXIP;2HXIET;2HXIEX;2HXIE;2HXIEP;2HXAT;2HXAX;2HXA;2HXAP;2HXUOT;2HXUOX;2HXUO;2HXUOP
  A256 2HXOT;2HXOX;2HXO;2HXOP;2HXEX;2HXE;2HXEP;2NGIEX;2NGIE;2NGIEP;2NGAT;2NGAX;2NGA;2NGAP;2NGUOT
  A265 2NGUOX;2NGUO;2NGOT;2NGOX;2NGO;2NGOP;2NGEX;2NGE;2NGEP;2HIT;2HIEX;2HIE;2HAT;2HAX;2HA;2HAP
  A275 2HUOT;2HUOX;2HUO;2HUOP;2HOT;2HOX;2HO;2HOP;2HEX;2HE;2HEP;2WAT;2WAX;2WA;2WAP;2WUOX;2WUO;2WUOP
  A287 2WOX;2WO;2WOP;2WEX;2WE;2WEP;2ZIT;2ZIX;2ZI;2ZIP;2ZIEX;2ZIE;2ZIEP;2ZAT;2ZAX;2ZA;2ZAP;2ZUOX
  A299 2ZUO;2ZUOP;2ZOT;2ZOX;2ZO;2ZOP;2ZEX;2ZE;2ZEP;2ZUT;2ZUX;2ZU;2ZUP;2ZURX;2ZUR;2ZYT;2ZYX;2ZY
  A2AB 2ZYP;2ZYRX;2ZYR;2CIT;2CIX;2CI;2CIP;2CIET;2CIEX;2CIE;2CIEP;2CAT;2CAX;2CA;2CAP;2CUOX;2CUO
  A2BC 2CUOP;2COT;2COX;2CO;2COP;2CEX;2CE;2CEP;2CUT;2CUX;2CU;2CUP;2CURX;2CUR;2CYT;2CYX;2CY;2CYP
  A2CE 2CYRX;2CYR;2ZZIT;2ZZIX;2ZZI;2ZZIP;2ZZIET;2ZZIEX;2ZZIE;2ZZIEP;2ZZAT;2ZZAX;2ZZA;2ZZAP;2ZZOX
  A2DD 2ZZO;2ZZOP;2ZZEX;2ZZE;2ZZEP;2ZZUX;2ZZU;2ZZUP;2ZZURX;2ZZUR;2ZZYT;2ZZYX;2ZZY;2ZZYP;2ZZYRX
  A2EC 2ZZYR;2NZIT;2NZIX;2NZI;2NZIP;2NZIEX;2NZIE;2NZIEP;2NZAT;2NZAX;2NZA;2NZAP;2NZUOX;2NZUO;2NZOX
  A2FB 2NZOP;2NZEX;2NZE;2NZUX;2NZU;2NZUP;2NZURX;2NZUR;2NZYT;2NZYX;2NZY;2NZYP;2NZYRX;2NZYR;2SIT
  A30A 2SIX;2SI;2SIP;2SIEX;2SIE;2SIEP;2SAT;2SAX;2SA;2SAP;2SUOX;2SUO;2SUOP;2SOT;2SOX;2SO;2SOP;2SEX
  A31C 2SE;2SEP;2SUT;2SUX;2SU;2SUP;2SURX;2SUR;2SYT;2SYX;2SY;2SYP;2SYRX;2SYR;2SSIT;2SSIX;2SSI;2SSIP
  A32E 2SSIEX;2SSIE;2SSIEP;2SSAT;2SSAX;2SSA;2SSAP;2SSOT;2SSOX;2SSO;2SSOP;2SSEX;2SSE;2SSEP;2SSUT
  A33D 2SSUX;2SSU;2SSUP;2SSYT;2SSYX;2SSY;2SSYP;2SSYRX;2SSYR;2ZHAT;2ZHAX;2ZHA;2ZHAP;2ZHUOX;2ZHUO
  A34C 2ZHUOP;2ZHOT;2ZHOX;2ZHO;2ZHOP;2ZHET;2ZHEX;2ZHE;2ZHEP;2ZHUT;2ZHUX;2ZHU;2ZHUP;2ZHURX;2ZHUR
  A35B 2ZHYT;2ZHYX;2ZHY;2ZHYP;2ZHYRX;2ZHYR;2CHAT;2CHAX;2CHA;2CHAP;2CHUOT;2CHUOX;2CHUO;2CHUOP;2CHOT
  A36A 2CHOX;2CHO;2CHOP;2CHET;2CHEX;2CHE;2CHEP;2CHUX;2CHU;2CHUP;2CHURX;2CHUR;2CHYT;2CHYX;2CHY
  A379 2CHYP;2CHYRX;2CHYR;2RRAX;2RRA;2RRUOX;2RRUO;2RROT;2RROX;2RRO;2RROP;2RRET;2RREX;2RRE;2RREP
  A388 2RRUT;2RRUX;2RRU;2RRUP;2RRURX;2RRUR;2RRYT;2RRYX;2RRY;2RRYP;2RRYRX;2RRYR;2NRAT;2NRAX;2NRA
  A397 2NRAP;2NROX;2NRO;2NROP;2NRET;2NREX;2NRE;2NREP;2NRUT;2NRUX;2NRU;2NRUP;2NRURX;2NRUR;2NRYT
  A3A6 2NRYX;2NRY;2NRYP;2NRYRX;2NRYR;2SHAT;2SHAX;2SHA;2SHAP;2SHUOX;2SHUO;2SHUOP;2SHOT;2SHOX;2SHO
  A3B5 2SHOP;2SHET;2SHEX;2SHE;2SHEP;2SHUT;2SHUX;2SHU;2SHUP;2SHURX;2SHUR;2SHYT;2SHYX;2SHY;2SHYP
  A3C4 2SHYRX;2SHYR;2RAT;2RAX;2RA;2RAP;2RUOX;2RUO;2RUOP;2ROT;2ROX;2RO;2ROP;2REX;2RE;2REP;2RUT;2RUX
  A3D6 2RU;2RUP;2RURX;2RUR;2RYT;2RYX;2RY;2RYP;2RYRX;2RYR;2JIT;2JIX;2JI;2JIP;2JIET;2JIEX;2JIE;2JIEP
  A3E8 2JUOT;2JUOX;2JUO;2JUOP;2JOT;2JOX;2JO;2JOP;2JUT;2JUX;2JU;2JUP;2JURX;2JUR;2JYT;2JYX;2JY;2JYP
  A3FA 2JYRX;2JYR;2QIT;2QIX;2QI;2QIP;2QIET;2QIEX;2QIE;2QIEP;2QUOT;2QUOX;2QUO;2QUOP;2QOT;2QOX;2QO
  A40B 2QOP;2QUT;2QUX;2QU;2QUP;2QURX;2QUR;2QYT;2QYX;2QY;2QYP;2QYRX;2QYR;2JJIT;2JJIX;2JJI;2JJIP
  A41C 2JJIET;2JJIEX;2JJIE;2JJIEP;2JJUOX;2JJUO;2JJUOP;2JJOT;2JJOX;2JJO;2JJOP;2JJUT;2JJUX;2JJU
  A42A 2JJUP;2JJURX;2JJUR;2JJYT;2JJYX;2JJY;2JJYP;2NJIT;2NJIX;2NJI;2NJIP;2NJIET;2NJIEX;2NJIE;2NJIEP
  A439 2NJUOX;2NJUO;2NJOT;2NJOX;2NJO;2NJOP;2NJUX;2NJU;2NJUP;2NJURX;2NJUR;2NJYT;2NJYX;2NJY;2NJYP
  A448 2NJYRX;2NJYR;2NYIT;2NYIX;2NYI;2NYIP;2NYIET;2NYIEX;2NYIE;2NYIEP;2NYUOX;2NYUO;2NYUOP;2NYOT
  A456 2NYOX;2NYO;2NYOP;2NYUT;2NYUX;2NYU;2NYUP;2XIT;2XIX;2XI;2XIP;2XIET;2XIEX;2XIE;2XIEP;2XUOX
  A466 2XUO;2XOT;2XOX;2XO;2XOP;2XYT;2XYX;2XY;2XYP;2XYRX;2XYR;2YIT;2YIX;2YI;2YIP;2YIET;2YIEX;2YIE
  A478 2YIEP;2YUOT;2YUOX;2YUO;2YUOP;2YOT;2YOX;2YO;2YOP;2YUT;2YUX;2YU;2YUP;2YURX;2YUR;2YYT;2YYX;2YY
  A48A 2YYP;2YYRX;2YYR
  A490 1RADICAL QOT;2LI;2KIT;2NYIP;2CYP;2SSI;2GGOP;2GEP;2MI;2HXIT;2LYR;2BBUT;2MOP;2YO;2PUT;2HXUO
  A4A0 2TAT;2GA;2ZUP;2CYT;2DDUR;2BUR;2GGUO;2NYOP;2TU;2OP;2JJUT;2ZOT;2PYT;2HMO;2YIT;2VUR;2SHY;2VEP
  A4B2 2ZA;2JO;2NZUP;2JJY;2GOT;2JJIE;2WO;2DU;2SHUR;2LIE;2CY;2CUOP;2CIP;2HXOP;2SHAT;2ZUR;2SHOP;2CHE
  A4C4 2ZZIET;2NBIE;2KE
  A4D0 0LISU l BA;2PA;2PHA;2DA;2TA;2THA;2GA;2KA;2KHA;2JA;2CA;2CHA;2DZA;2TSA;2TSHA;2MA;2NA;2LA;2SA
  A4E3 2ZHA;2ZA;2NGA;2HA;2XA;2HHA;2FA;2WA;2SHA;2YA;2GHA;2A;2AE;2E;2EU;2I;2O;2U;2UE;2UH;2OE
  A4F8 2TONE MYA TI;3NA PO;3MYA CYA;4BO;4NA;4JEU;1PUNCTUATION COMMA;2FULL STOP;0VAI SYLLABLE EE
  A501 2EEN;2HEE;2WEE;2WEEN;2PEE;2BHEE;2BEE;2MBEE;2KPEE;2MGBEE;2GBEE;2FEE;2VEE;2TEE;2THEE;2DHEE
  A511 2DHHEE;2LEE;2REE;2DEE;2NDEE;2SEE;2SHEE;2ZEE;2ZHEE;2CEE;2JEE;2NJEE;2YEE;2KEE;2NGGEE;2GEE
  A521 2MEE;2NEE;2NYEE;2I;2IN;2HI;2HIN;2WI;2WIN;2PI;2BHI;2BI;2MBI;2KPI;2MGBI;2GBI;2FI;2VI;2TI;2THI
  A535 2DHI;2DHHI;2LI;2RI;2DI;2NDI;2SI;2SHI;2ZI;2ZHI;2CI;2JI;2NJI;2YI;2KI;2NGGI;2GI;2MI;2NI;2NYI
  A549 2A;2AN;2NGAN;2HA;2HAN;2WA;2WAN;2PA;2BHA;2BA;2MBA;2KPA;2KPAN;2MGBA;2GBA;2FA;2VA;2TA;2THA
  A55C 2DHA;2DHHA;2LA;2RA;2DA;2NDA;2SA;2SHA;2ZA;2ZHA;2CA;2JA;2NJA;2YA;2KA;2KAN;2NGGA;2GA;2MA;2NA
  A570 2NYA;2OO;2OON;2HOO;2WOO;2WOON;2POO;2BHOO;2BOO;2MBOO;2KPOO;2MGBOO;2GBOO;2FOO;2VOO;2TOO;2THOO
  A581 2DHOO;2DHHOO;2LOO;2ROO;2DOO;2NDOO;2SOO;2SHOO;2ZOO;2ZHOO;2COO;2JOO;2NJOO;2YOO;2KOO;2NGGOO
  A591 2GOO;2MOO;2NOO;2NYOO;2U;2UN;2HU;2HUN;2WU;2WUN;2PU;2BHU;2BU;2MBU;2KPU;2MGBU;2GBU;2FU;2VU;2TU
  A5A5 2THU;2DHU;2DHHU;2LU;2RU;2DU;2NDU;2SU;2SHU;2ZU;2ZHU;2CU;2JU;2NJU;2YU;2KU;2NGGU;2GU;2MU;2NU
  A5B9 2NYU;2O;2ON;2NGON;2HO;2HON;2WO;2WON;2PO;2BHO;2BO;2MBO;2KPO;2MGBO;2GBO;2GBON;2FO;2VO;2TO
  A5CC 2THO;2DHO;2DHHO;2LO;2RO;2DO;2NDO;2SO;2SHO;2ZO;2ZHO;2CO;2JO;2NJO;2YO;2KO;2NGGO;2GO;2MO;2NO
  A5E0 2NYO;2E;2EN;2NGEN;2HE;2HEN;2WE;2WEN;2PE;2BHE;2BE;2MBE;2KPE;2KPEN;2MGBE;2GBE;2GBEN;2FE;2VE
  A5F3 2TE;2THE;2DHE;2DHHE;2LE;2RE;2DE;2NDE;2SE;2SHE;2ZE;2ZHE;2CE;2JE;2NJE;2YE;2KE;2NGGE;2NGGEN
  A606 2GE;2GEN;2ME;2NE;2NYE;2NG;2LENGTHENER;1COMMA;1FULL STOP;1QUESTION MARK;1SYLLABLE NDOLE FA
  A611 3KA;3SOO;1y FEENG;2KEENG;2TING;2NII;2BANG;2FAA;2TAA;2DANG;2DOONG;2KUNG;2TONG;2DO-O;2JONG
  A620 1DIGIT ZERO;2ONE;2TWO;2m;2FOUR;2FIVE;2SIX;2SEVEN;2EIGHT;2NINE;1SYLLABLE NDOLE MA;3DO
  A640 0CYRILLIC c l ZEMLYA;1s l ZEMLYA;1c l DZELO;1s l DZELO;1c l REVERSED DZE;1s l REVERSED DZE
  A646 1c l IOTA;1s l IOTA;1c l DJERV;1s l DJERV;1c l MONOGRAPH UK;1s l MONOGRAPH UK
  A64C 1c l BROAD OMEGA;1s l BROAD OMEGA;1c l NEUTRAL YER;1s l NEUTRAL YER;1c l YERU w BACK YER
  A651 1s l YERU w BACK YER;1c l IOTIFIED YAT;1s l IOTIFIED YAT;1c l REVERSED YU;1s l REVERSED YU
  A656 1c l IOTIFIED A;1s l IOTIFIED A;1c l CLOSED LITTLE YUS;1s l CLOSED LITTLE YUS
  A65A 1c l BLENDED YUS;1s l BLENDED YUS;1c l IOTIFIED CLOSED LITTLE YUS
  A65D 1s l IOTIFIED CLOSED LITTLE YUS;1c l YN;1s l YN;1c l REVERSED TSE;1s l REVERSED TSE
  A662 1c l SOFT DE;1s l SOFT DE;1c l SOFT EL;1s l SOFT EL;1c l SOFT EM;1s l SOFT EM
  A668 1c l MONOCULAR O;1s l MONOCULAR O;1c l BINOCULAR O;1s l BINOCULAR O;1c l d MONOCULAR O
  A66D 1s l d MONOCULAR O;1l MULTIOCULAR O;0COMBINING CYRILLIC VZMET;2TEN MILLIONS i
  A671 2HUNDRED MILLIONS i;2THOUSAND MILLIONS i;0SLAVONIC ASTERISK
  A674 0COMBINING CYRILLIC l UKRAINIAN IE;3I;3YI;3U;3HARD i;3YERU;3SOFT i;3OMEGA;2KAVYKA;2PAYEROK
  A67E 0CYRILLIC KAVYKA;1PAYEROK;1c l DWE;1s l DWE;1c l DZWE;1s l DZWE;1c l ZHWE;1s l ZHWE
  A686 1c l CCHE;1s l CCHE;1c l DZZE;1s l DZZE;1c l TE w MIDDLE HOOK;1s l TE w MIDDLE HOOK
  A68C 1c l TWE;1s l TWE;1c l TSWE;1s l TSWE;1c l TSSE;1s l TSSE;1c l TCHE;1s l TCHE;1c l HWE
  A695 1s l HWE;1c l SHWE;1s l SHWE;1c l d O;1s l d O;1c l CROSSED O;1s l CROSSED O
  A69C 0MODIFIER l CYRILLIC HARD i;3SOFT i;0COMBINING CYRILLIC l EF;3IOTIFIED E;0BAMUM l A;2KA;2U
  A6A3 2KU;2EE;2REE;2TAE;2O;2NYI;2I;2LA;2PA;2RII;2RIEE;2LEEEE;2MEEEE;2TAA;2NDAA;2NJAEM;2M;2SUU;2MU
  A6B6 2SHII;2SI;2SHEUX;2SEUX;2KYEE;2KET;2NUAE;2NU;2NJUAE;2YOQ;2SHU;2YUQ;2YA;2NSHA;2KEUX;2PEUX
  A6C6 2NJEE;2NTEE;2PUE;2WUE;2PEE;2FEE;2RU;2LU;2MI;2NI;2REUX;2RAE;2KEN;2NGKWAEN;2NGGA;2NGA;2SHO
  A6D7 2PUAE;2FU;2FOM;2WA;2NA;2LI;2PI;2LOQ;2KO;2MBEN;2REN;2MEN;2MA;2TI;2KI;2MO;2MBAA;2TET;2KPA
  A6EA 2TEN;2NTUU;2SAMBA;2FAAMAE;2KOVUU;2KOGHOM;1COMBINING MARK KOQNDON;3TUKWENTIS;1NJAEMLI
  A6F3 1FULL STOP;1COLON;1COMMA;1SEMICOLON;1QUESTION MARK
  A700 0MODIFIER l CHINESE TONE YIN PING;4YANG PING;4YIN SHANG;4YANG SHANG;4YIN QU;4YANG QU
  A706 4YIN RU;4YANG RU;2EXTRA-HIGH DOTTED TONE BAR;2HIGH DOTTED TONE BAR;2MID DOTTED TONE BAR
  A70B 2LOW DOTTED TONE BAR;2EXTRA-LOW DOTTED TONE BAR;2EXTRA-HIGH DOTTED LEFT-STEM TONE BAR
  A70E 2HIGH DOTTED LEFT-STEM TONE BAR;2MID DOTTED LEFT-STEM TONE BAR
  A710 2LOW DOTTED LEFT-STEM TONE BAR;2EXTRA-LOW DOTTED LEFT-STEM TONE BAR
  A712 2EXTRA-HIGH LEFT-STEM TONE BAR;2HIGH LEFT-STEM TONE BAR;2MID LEFT-STEM TONE BAR
  A715 2LOW LEFT-STEM TONE BAR;2EXTRA-LOW LEFT-STEM TONE BAR;2DOT v BAR;3SLASH;3z BAR
  A71A 2LOWER r CORNER ANGLE;2RAISED UP a;3DOWN a;3EXCLAMATION MARK;3INVERTED EXCLAMATION MARK
  A71F 2LOW INVERTED EXCLAMATION MARK;2STRESS h HIGH TONE;4LOW TONE;0LATIN c l EGYPTOLOGICAL ALEF
  A723 1s l EGYPTOLOGICAL ALEF;1c l EGYPTOLOGICAL AIN;1s l EGYPTOLOGICAL AIN;1c l HENG;1s l HENG
  A728 1c l TZ;1s l TZ;1c l TRESILLO;1s l TRESILLO;1c l CUATRILLO;1s l CUATRILLO
  A72E 1c l CUATRILLO w COMMA;1s l CUATRILLO w COMMA;1l s c F;4S;1c l AA;1s l AA;1c l AO;1s l AO
  A736 1c l AU;1s l AU;1c l AV;1s l AV;1c l AV w z BAR;1s l AV w z BAR;1c l AY;1s l AY
  A73E 1c l REVERSED C w DOT;1s l REVERSED C w DOT;1c l K w q;1s l K w q;1c l K w DIAGONAL q
  A743 1s l K w DIAGONAL q;1c l K w q h DIAGONAL q;1s l K w q h DIAGONAL q;1c l BROKEN L
  A747 1s l BROKEN L;1c l L w HIGH q;1s l L w HIGH q;1c l O w LONG q OVERLAY
  A74B 1s l O w LONG q OVERLAY;1c l O w LOOP;1s l O w LOOP;1c l OO;1s l OO
  A750 1c l P w q THROUGH DESCENDER;1s l P w q THROUGH DESCENDER;1c l P w FLOURISH
  A753 1s l P w FLOURISH;1c l P w SQUIRREL TAIL;1s l P w SQUIRREL TAIL
  A756 1c l Q w q THROUGH DESCENDER;1s l Q w q THROUGH DESCENDER;1c l Q w DIAGONAL q
  A759 1s l Q w DIAGONAL q;1c l R ROTUNDA;1s l R ROTUNDA;1c l RUM ROTUNDA;1s l RUM ROTUNDA
  A75E 1c l V w DIAGONAL q;1s l V w DIAGONAL q;1c l VY;1s l VY;1c l VISIGOTHIC Z;1s l VISIGOTHIC Z
  A764 1c l THORN w q;1s l THORN w q;1c l THORN w q THROUGH DESCENDER
  A767 1s l THORN w q THROUGH DESCENDER;1c l VEND;1s l VEND;1c l ET;1s l ET;1c l IS;1s l IS
  A76E 1c l CON;1s l CON;0MODIFIER l US;0LATIN s l DUM;3LUM;3MUM;3NUM;3RUM;1l s c RUM;1s l TUM;3UM
  A779 1c l INSULAR D;1s l INSULAR D;1c l INSULAR F;1s l INSULAR F;1c l INSULAR G
  A77E 3TURNED INSULAR G;1s l TURNED INSULAR G;1c l TURNED L;1s l TURNED L;1c l INSULAR R
  A783 1s l INSULAR R;1c l INSULAR S;1s l INSULAR S;1c l INSULAR T;1s l INSULAR T
  A788 0MODIFIER l LOW CIRCUMFLEX ACCENT;2COLON;2SHORT EQUALS i;0LATIN c l SALTILLO;1s l SALTILLO
  A78D 1c l TURNED H;1s l L w RETROFLEX HOOK h BELT;1l SINOLOGICAL DOT;1c l N w DESCENDER
  A791 1s l N w DESCENDER;1c l C w BAR;1s l C w BAR;5PALATAL HOOK;3H w PALATAL HOOK
  A796 1c l B w FLOURISH;1s l B w FLOURISH;1c l F w q;1s l F w q;1c l VOLAPUK AE;1s l VOLAPUK AE
  A79C 1c l VOLAPUK OE;1s l VOLAPUK OE;1c l VOLAPUK UE;1s l VOLAPUK UE;1c l G w OBLIQUE q
  A7A1 1s l G w OBLIQUE q;1c l K w OBLIQUE q;1s l K w OBLIQUE q;1c l N w OBLIQUE q
  A7A5 1s l N w OBLIQUE q;1c l R w OBLIQUE q;1s l R w OBLIQUE q;1c l S w OBLIQUE q
  A7A9 1s l S w OBLIQUE q;1c l H w HOOK;3REVERSED OPEN E;3SCRIPT G;3L w BELT;3s c I;1l s c Q
  A7B0 1c l TURNED K;4T;3J w CROSSED-TAIL;3CHI;3BETA;1s l BETA;1c l OMEGA;1s l OMEGA;1c l U w q
  A7B9 1s l U w q;1c l GLOTTAL A;1s l GLOTTAL A;1c l GLOTTAL I;1s l GLOTTAL I;1c l GLOTTAL U
  A7BF 1s l GLOTTAL U;1c l OLD POLISH O;1s l OLD POLISH O;1c l ANGLICANA W;1s l ANGLICANA W
  A7C4 1c l C w PALATAL HOOK;3S w HOOK;3Z w PALATAL HOOK;3D w SHORT q OVERLAY
  A7C8 1s l D w SHORT q OVERLAY;1c l S w SHORT q OVERLAY;1s l S w SHORT q OVERLAY
  A7D0 1c l CLOSED INSULAR G;1s l CLOSED INSULAR G
  A7D3 3d THORN
  A7D5 4WYNN;1c l MIDDLE SCOTS S;1s l MIDDLE SCOTS S;1c l SIGMOID S;1s l SIGMOID S
  A7F2 0MODIFIER l c C;3F;3Q;0LATIN c l REVERSED HALF H;1s l REVERSED HALF H
  A7F7 1EPIGRAPHIC l SIDEWAYS I;0MODIFIER l c H w q;2s LIGATURE OE;0LATIN l s c TURNED M
  A7FB 1EPIGRAPHIC l REVERSED F;4P;3INVERTED M;3I LONGA;3ARCHAIC M;0SYLOTI NAGRI l A;3I
  A802 2i DVISVARA;2l U;3E;3O;2i HASANTA;2l KO;3KHO;3GO;3GHO;2i ANUSVARA;2l CO;3CHO;3JO;3JHO;3TTO
  A811 3TTHO;3DDO;3DDHO;3TO;3THO;3DO;3DHO;3NO;3PO;3PHO;3BO;3BHO;3MO;3RO;3LO;3RRO;3SO;3HO
  A823 2VOWEL i A;4I;4U;4E;4OO;2POETRY MARK-1;3MARK-2;3MARK-3;3MARK-4;2i ALTERNATE HASANTA
  A830 0NORTH INDIC FRACTION ONE QUARTER;4HALF;3m QUARTERS;3ONE SIXTEENTH;4EIGHTH;3m SIXTEENTHS
  A836 2QUARTER MARK;2PLACEHOLDER MARK;2RUPEE MARK;2QUANTITY MARK
  A840 0PHAGS-PA l KA;2KHA;2GA;2NGA;2CA;2CHA;2JA;2NYA;2TA;2THA;2DA;2NA;2PA;2PHA;2BA;2MA;2TSA;2TSHA
  A852 2DZA;2WA;2ZHA;2ZA;2s A;2YA;2RA;2LA;2SHA;2SA;2HA;2A;2I;2U;2E;2O;2QA;2XA;2FA;2GGA;2EE
  A867 1SUBJOINED l WA;3YA;1l TTA;2TTHA;2DDA;2NNA;2ALTERNATE YA;2VOICELESS SHA;2VOICED HA
  A870 2ASPIRATED FA;1SUBJOINED l RA;1SUPERFIXED l RA;1l CANDRABINDU;1SINGLE HEAD MARK
  A875 1d HEAD MARK;1MARK SHAD;2d SHAD
  A880 0SAURASHTRA i ANUSVARA;2VISARGA;1l A;2AA;2I;2II;2U;2UU;2VOCALIC R;3RR;3L;3LL;2E;2EE;2AI;2O
  A890 2OO;2AU;2KA;2KHA;2GA;2GHA;2NGA;2CA;2CHA;2JA;2JHA;2NYA;2TTA;2TTHA;2DDA;2DDHA;2NNA;2TA;2THA
  A8A3 2DA;2DHA;2NA;2PA;2PHA;2BA;2BHA;2MA;2YA;2RA;2LA;2VA;2SHA;2SSA;2SA;2HA;2LLA
  A8B4 1CONSONANT i HAARU;1VOWEL i AA;3I;3II;3U;3UU;3VOCALIC R;4RR;4L;4LL;3E;3EE;3AI;3O;3OO;3AU
  A8C4 1i VIRAMA;2CANDRABINDU
  A8CE 1DANDA;1d DANDA;1DIGIT ZERO;2ONE;2TWO;2m;2FOUR;2FIVE;2SIX;2SEVEN;2EIGHT;2NINE
  A8E0 0COMBINING DEVANAGARI DIGIT ZERO;3ONE;3TWO;3m;3FOUR;3FIVE;3SIX;3SEVEN;3EIGHT;3NINE;2l A;3U
  A8EC 3KA;3NA;3PA;3RA;3VI;2i AVAGRAHA;0DEVANAGARI i SPACING CANDRABINDU;2CANDRABINDU VIRAMA
  A8F4 2d CANDRABINDU VIRAMA;2CANDRABINDU TWO;3m;3AVAGRAHA;2PUSHPIKA;1GAP FILLER;1CARET
  A8FB 1HEADSTROKE;1i SIDDHAM;1JAIN OM;1l AY;1VOWEL i AY;0KAYAH LI DIGIT ZERO;3ONE;3TWO;3m;3FOUR
  A905 3FIVE;3SIX;3SEVEN;3EIGHT;3NINE;2l KA;3KHA;3GA;3NGA;3SA;3SHA;3ZA;3NYA;3TA;3HTA;3NA;3PA;3PHA
  A917 3MA;3DA;3BA;3RA;3YA;3LA;3WA;3THA;3HA;3VA;3CA;3A;3OE;3I;3OO;2VOWEL UE;3E;3U;3EE;3O
  A92B 2TONE PLOPHU;3CALYA;4PLOPHU;2i CWI;3SHYA;0REJANG l KA;2GA;2NGA;2TA;2DA;2NA;2PA;2BA;2MA;2CA
  A93A 2JA;2NYA;2SA;2RA;2LA;2YA;2WA;2HA;2MBA;2NGGA;2NDA;2NYJA;2A;1VOWEL i I;3U;3E;3AI;3O;3AU;3EU
  A94E 3EA;1CONSONANT i NG;3N;3R;3H;1VIRAMA
  A95F 1SECTION MARK;0HANGUL CHOSEONG TIKEUT-MIEUM;2TIKEUT-PIEUP;2TIKEUT-SIOS;2TIKEUT-CIEUC
  A964 2RIEUL-KIYEOK;2RIEUL-SSANGKIYEOK;2RIEUL-TIKEUT;2RIEUL-SSANGTIKEUT;2RIEUL-MIEUM;2RIEUL-PIEUP
  A96A 2RIEUL-SSANGPIEUP;2RIEUL-KAPYEOUNPIEUP;2RIEUL-SIOS;2RIEUL-CIEUC;2RIEUL-KHIEUKH
  A96F 2MIEUM-KIYEOK;2MIEUM-TIKEUT;2MIEUM-SIOS;2PIEUP-SIOS-THIEUTH;2PIEUP-KHIEUKH;2PIEUP-HIEUH
  A975 2SSANGSIOS-PIEUP;2IEUNG-RIEUL;2IEUNG-HIEUH;2SSANGCIEUC-HIEUH;2SSANGTHIEUTH;2PHIEUPH-HIEUH
  A97B 2HIEUH-SIOS;2SSANGYEORINHIEUH
  A980 0JAVANESE i PANYANGGA;2CECAK;2LAYAR;2WIGNYAN;1l A;2I KAWI;3;2II;2U;2PA CEREK;2NGA LELET
  A98B 4RASWADI;2E;2AI;2O;2KA;3SASAK;3MURDA;2GA;3MURDA;2NGA;2CA;3MURDA;2JA;2NYA MURDA
  A999 2JA MAHAPRANA;2NYA;2TTA;3MAHAPRANA;2DDA;3MAHAPRANA;2NA MURDA;2TA;3MURDA;2DA;3MAHAPRANA;2NA
  A9A5 2PA;3MURDA;2BA;3MURDA;2MA;2YA;2RA;3AGUNG;2LA;2WA;2SA MURDA;3MAHAPRANA;3;2HA;1i CECAK TELU
  A9B4 1VOWEL i TARUNG;3TOLONG;3WULU;4MELIK;3SUKU;4MENDUT;3TALING;3DIRGA MURE;3PEPET
  A9BD 1CONSONANT i KERET;3PENGKAL;3CAKRA;1PANGKON;1t RERENGGAN;1r RERENGGAN;1PADA ANDAP;2MADYA
  A9C5 2LUHUR;2WINDU;2PANGKAT;2LINGSA;2LUNGSI;2ADEG;3ADEG;2PISELEH;1TURNED PADA PISELEH
  A9CF 1PANGRANGKEP;1DIGIT ZERO;2ONE;2TWO;2m;2FOUR;2FIVE;2SIX;2SEVEN;2EIGHT;2NINE
  A9DE 1PADA TIRTA TUMETES;2ISEN-ISEN;0MYANMAR l SHAN GHA;3CHA;3JHA;3NNA;3BHA;1i SHAN SAW
  A9E6 1MODIFIER l SHAN REDUPLICATION;1l TAI LAING NYA;4FA;4GA;4GHA;4JA;4JHA;4DDA;4DDHA;4NNA
  A9F0 1TAI LAING DIGIT ZERO;4ONE;4TWO;4m;4FOUR;4FIVE;4SIX;4SEVEN;4EIGHT;4NINE;1l TAI LAING LLA
  A9FB 4DA;4DHA;4BA;4BHA
  AA00 0CHAM l A;2I;2U;2E;2AI;2O;2KA;2KHA;2GA;2GHA;2NGUE;2NGA;2CHA;2CHHA;2JA;2JHA;2NHUE;2NHA;2NHJA
  AA13 2TA;2THA;2DA;2DHA;2NUE;2NA;2DDA;2PA;2PPA;2PHA;2BA;2BHA;2MUE;2MA;2BBA;2YA;2RA;2LA;2VA;2SSA
  AA27 2SA;2HA;1VOWEL i AA;3I;3II;3EI;3U;3OE;3O;3AI;3AU;3UE;1CONSONANT i YA;3RA;3LA;3WA
  AA40 1l n K;3G;3NG;1CONSONANT i n NG;1l n CH;3T;3N;3P;3Y;3R;3L;3SS;1CONSONANT i n M;4H
  AA50 1DIGIT ZERO;2ONE;2TWO;2m;2FOUR;2FIVE;2SIX;2SEVEN;2EIGHT;2NINE
  AA5C 1PUNCTUATION SPIRAL;2DANDA;2d DANDA;2TRIPLE DANDA;0MYANMAR l KHAMTI GA;3CA;3CHA;3JA;3JHA
  AA65 3NYA;3TTA;3TTHA;3DDA;3DDHA;3DHA;3NA;3SA;3HA;3HHA;3FA;1MODIFIER l KHAMTI REDUPLICATION
  AA71 1l KHAMTI XA;3ZA;3RA;1LOGOGRAM KHAMTI OAY;3QN;3HM;1y AITON EXCLAMATION;3ONE;3TWO
  AA7A 1l AITON RA;1i PAO KAREN TONE;2TAI LAING TONE-2;4TONE-5;1l SHWE PALAUNG CHA;4SHA
  AA80 0TAI VIET l LOW KO;3HIGH KO;3LOW KHO;3HIGH KHO;3LOW KHHO;3HIGH KHHO;3LOW GO;3HIGH GO
  AA88 3LOW NGO;3HIGH NGO;3LOW CO;3HIGH CO;3LOW CHO;3HIGH CHO;3LOW SO;3HIGH SO;3LOW NYO;3HIGH NYO
  AA92 3LOW DO;3HIGH DO;3LOW TO;3HIGH TO;3LOW THO;3HIGH THO;3LOW NO;3HIGH NO;3LOW BO;3HIGH BO
  AA9C 3LOW PO;3HIGH PO;3LOW PHO;3HIGH PHO;3LOW FO;3HIGH FO;3LOW MO;3HIGH MO;3LOW YO;3HIGH YO
  AAA6 3LOW RO;3HIGH RO;3LOW LO;3HIGH LO;3LOW VO;3HIGH VO;3LOW HO;3HIGH HO;3LOW O;3HIGH O
  AAB0 2MAI KANG;2VOWEL AA;3I;3UE;3U;3E;3O;2MAI KHIT;2VOWEL IA;3UEA;3UA;3AUE;3AY;3AN;3AM
  AABF 2TONE MAI EK;4NUENG;4THO;4SONG
  AADB 2y KON;3NUENG;3SAM;3HO HOI;3KOI KOI;0MEETEI MAYEK l E;3O;3CHA;3NYA;3TTA;3TTHA;3DDA;3DDHA
  AAE8 3NNA;3SHA;3SSA;2VOWEL i II;4UU;4AAI;4AU;4AAU;2CHEIKHAN;2AHANG KHUDAM;2ANJI
  AAF3 2SYLLABLE REPETITION MARK;2WORD REPETITION MARK;2VOWEL i VISARGA;2VIRAMA
  AB01 0ETHIOPIC SYLLABLE TTHU;2TTHI;2TTHAA;2TTHEE;2TTHE;2TTHO
  AB09 2DDHU;2DDHI;2DDHAA;2DDHEE;2DDHE;2DDHO
  AB11 2DZU;2DZI;2DZAA;2DZEE;2DZE;2DZO
  AB20 2CCHHA;2CCHHU;2CCHHI;2CCHHAA;2CCHHEE;2CCHHE;2CCHHO
  AB28 2BBA;2BBU;2BBI;2BBAA;2BBEE;2BBE;2BBO
  AB30 0LATIN s l BARRED ALPHA;3A REVERSED-SCHWA;3BLACKLETTER E;3BARRED E;3E w FLOURISH;3LENIS F
  AB36 3SCRIPT G w CROSSED-TAIL;3L w INVERTED LAZY S;5d MIDDLE TILDE;5MIDDLE RING
  AB3A 3M w CROSSED-TAIL;3N w CROSSED-TAIL;3ENG w CROSSED-TAIL;3BLACKLETTER O;5w q;3OPEN O w q
  AB40 3INVERTED OE;3TURNED OE w q;6z q;4O OPEN-O;6w q;3STIRRUP R;1l s c R w r LEG
  AB47 1s l R WITHOUT HANDLE;3d R;3R w CROSSED-TAIL;3d R w CROSSED-TAIL;3SCRIPT R;5w RING
  AB4D 3BASELINE ESH;3U w SHORT r LEG;4BAR w SHORT r LEG;3UI;3TURNED UI;3U w t HOOK;3CHI
  AB54 4w LOW r RING;6t SERIF;3X w LOW r RING;5LONG t LEG;8h LOW r RING;8w SERIF;3Y w SHORT r LEG
  AB5B 0MODIFIER BREVE w INVERTED BREVE;1l s HENG;3L w INVERTED LAZY S;5MIDDLE TILDE;3U w t HOOK
  AB60 0LATIN s l SAKHA YAT;3IOTIFIED E;3OPEN OE;3UO;3INVERTED ALPHA;0GREEK l s c OMEGA
  AB66 0LATIN s l DZ DIGRAPH w RETROFLEX HOOK;3TS DIGRAPH w RETROFLEX HOOK
  AB68 3TURNED R w MIDDLE TILDE;0MODIFIER l s TURNED W;2t TACK;2r TACK
  AB70 0CHEROKEE s l A;3E;3I;3O;3U;3V;3GA;3KA;3GE;3GI;3GO;3GU;3GV;3HA;3HE;3HI;3HO;3HU;3HV;3LA;3LE
  AB85 3LI;3LO;3LU;3LV;3MA;3ME;3MI;3MO;3MU;3NA;3HNA;3NAH;3NE;3NI;3NO;3NU;3NV;3QUA;3QUE;3QUI;3QUO
  AB9A 3QUU;3QUV;3SA;3S;3SE;3SI;3SO;3SU;3SV;3DA;3TA;3DE;3TE;3DI;3TI;3DO;3DU;3DV;3DLA;3TLA;3TLE
  ABAF 3TLI;3TLO;3TLU;3TLV;3TSA;3TSE;3TSI;3TSO;3TSU;3TSV;3WA;3WE;3WI;3WO;3WU;3WV;3YA
  ABC0 0MEETEI MAYEK l KOK;3SAM;3LAI;3MIT;3PA;3NA;3CHIL;3TIL;3KHOU;3NGOU;3THOU;3WAI;3YANG;3HUK;3UN
  ABCF 3I;3PHAM;3ATIYA;3GOK;3JHAM;3RAI;3BA;3JIL;3DIL;3GHOU;3DHOU;3BHAM;3KOK LONSUM;3LAI LONSUM
  ABDD 3MIT LONSUM;3PA LONSUM;3NA LONSUM;3TIL LONSUM;3NGOU LONSUM;3I LONSUM;2VOWEL i ONAP;4INAP
  ABE5 4ANAP;4YENAP;4SOUNAP;4UNAP;4CHEINAP;4NUNG;2CHEIKHEI;2LUM IYEK;2APUN IYEK
  ABF0 2DIGIT ZERO;3ONE;3TWO;3m;3FOUR;3FIVE;3SIX;3SEVEN;3EIGHT;3NINE
  D7B0 0HANGUL JUNGSEONG O-YEO;2O-O-I;2YO-A;2YO-AE;2YO-EO;2U-YEO;2U-I-I;2YU-AE;2YU-O;2EU-A;2EU-EO
  D7BB 2EU-E;2EU-O;2I-YA-O;2I-YAE;2I-YEO;2I-YE;2I-O-I;2I-YO;2I-YU;2I-I;2ARAEA-A;2ARAEA-E
  D7CB 1JONGSEONG NIEUN-RIEUL;2NIEUN-CHIEUCH;2SSANGTIKEUT;2SSANGTIKEUT-PIEUP;2TIKEUT-PIEUP
  D7D0 2TIKEUT-SIOS;2TIKEUT-SIOS-KIYEOK;2TIKEUT-CIEUC;2TIKEUT-CHIEUCH;2TIKEUT-THIEUTH
  D7D5 2RIEUL-SSANGKIYEOK;2RIEUL-KIYEOK-HIEUH;2SSANGRIEUL-KHIEUKH;2RIEUL-MIEUM-HIEUH
  D7D9 2RIEUL-PIEUP-TIKEUT;2RIEUL-PIEUP-PHIEUPH;2RIEUL-YESIEUNG;2RIEUL-YEORINHIEUH-HIEUH
  D7DD 2KAPYEOUNRIEUL;2MIEUM-NIEUN;2MIEUM-SSANGNIEUN;2SSANGMIEUM;2MIEUM-PIEUP-SIOS;2MIEUM-CIEUC
  D7E3 2PIEUP-TIKEUT;2PIEUP-RIEUL-PHIEUPH;2PIEUP-MIEUM;2SSANGPIEUP;2PIEUP-SIOS-TIKEUT;2PIEUP-CIEUC
  D7E9 2PIEUP-CHIEUCH;2SIOS-MIEUM;2SIOS-KAPYEOUNPIEUP;2SSANGSIOS-KIYEOK;2SSANGSIOS-TIKEUT
  D7EE 2SIOS-PANSIOS;2SIOS-CIEUC;2SIOS-CHIEUCH;2SIOS-THIEUTH;2SIOS-HIEUH;2PANSIOS-PIEUP
  D7F4 2PANSIOS-KAPYEOUNPIEUP;2YESIEUNG-MIEUM;2YESIEUNG-HIEUH;2CIEUC-PIEUP;2CIEUC-SSANGPIEUP
  D7F9 2SSANGCIEUC;2PHIEUPH-SIOS;2PHIEUPH-THIEUTH
  FB00 0LATIN s LIGATURE FF;3FI;3FL;3FFI;3FFL;3LONG S T;3ST
  FB13 0ARMENIAN s LIGATURE MEN NOW;4ECH;4INI;3VEW NOW;3MEN XEH
  FB1D 0HEBREW l YOD w HIRIQ;1POINT JUDEO-SPANISH VARIKA;1LIGATURE YIDDISH YOD YOD PATAH
  FB20 1l ALTERNATIVE AYIN;2WIDE ALEF;3DALET;3HE;3KAF;3LAMED;3n MEM;3RESH;3TAV;2ALTERNATIVE PLUS i
  FB2A 2SHIN w SHIN DOT;4SIN DOT;4DAGESH h SHIN DOT;6SIN DOT;2ALEF w PATAH;4QAMATS;4MAPIQ
  FB31 2BET w DAGESH;2GIMEL w DAGESH;2DALET w DAGESH;2HE w MAPIQ;2VAV w DAGESH;2ZAYIN w DAGESH
  FB38 2TET w DAGESH;2YOD w DAGESH;2n KAF w DAGESH;2KAF w DAGESH;2LAMED w DAGESH
  FB3E 2MEM w DAGESH
  FB40 2NUN w DAGESH;2SAMEKH w DAGESH
  FB43 2n PE w DAGESH;2PE w DAGESH
  FB46 2TSADI w DAGESH;2QOF w DAGESH;2RESH w DAGESH;2SHIN w DAGESH;2TAV w DAGESH;2VAV w HOLAM
  FB4C 2BET w RAFE;2KAF w RAFE;2PE w RAFE;1LIGATURE ALEF LAMED;0ARABIC l ALEF WASLA o f;4n f
  FB52 2BEEH o f;3n f;3k f;3MEDIAL f;2PEH o f;3n f;3k f;3MEDIAL f;2BEHEH o f;3n f;3k f;3MEDIAL f
  FB5E 2TTEHEH o f;3n f;3k f;3MEDIAL f;2TEHEH o f;3n f;3k f;3MEDIAL f;2TTEH o f;3n f;3k f
  FB69 3MEDIAL f;2VEH o f;3n f;3k f;3MEDIAL f;2PEHEH o f;3n f;3k f;3MEDIAL f;2DYEH o f;3n f;3k f
  FB75 3MEDIAL f;2NYEH o f;3n f;3k f;3MEDIAL f;2TCHEH o f;3n f;3k f;3MEDIAL f;2TCHEHEH o f;3n f
  FB80 3k f;3MEDIAL f;2DDAHAL o f;3n f;2DAHAL o f;3n f;2DUL o f;3n f;2DDAL o f;3n f;2JEH o f;3n f
  FB8C 2RREH o f;3n f;2KEHEH o f;3n f;3k f;3MEDIAL f;2GAF o f;3n f;3k f;3MEDIAL f;2GUEH o f;3n f
  FB98 3k f;3MEDIAL f;2NGOEH o f;3n f;3k f;3MEDIAL f;2NOON GHUNNA o f;4n f;2RNOON o f;3n f;3k f
  FBA3 3MEDIAL f;2HEH w YEH b o f;6n f;3GOAL o f;4n f;4k f;4MEDIAL f;3DOACHASHMEE o f;4n f;4k f
  FBAD 4MEDIAL f;2YEH BARREE o f;4n f;4w HAMZA b o f;7n f;1y DOT b;3e;2TWO DOTS b;4e;2m DOTS b;4e
  FBB8 4POINTING DOWNWARDS b;6e;2FOUR DOTS b;4e;2d v BAR e;2TWO DOTS VERTICALLY b;5e;2RING
  FBC0 2s TAH b;4e;2WASLA b
  FBD3 1l NG o f;3n f;3k f;3MEDIAL f;2U o f;3n f;2OE o f;3n f;2YU o f;3n f;2U w HAMZA b o f
  FBDE 2VE o f;3n f;2KIRGHIZ OE o f;4n f;3YU o f;4n f;2E o f;3n f;3k f;3MEDIAL f
  FBE8 2UIGHUR KAZAKH KIRGHIZ ALEF MAKSURA k f;7MEDIAL f;1LIGATURE YEH w HAMZA b w ALEF o f;8n f
  FBEC 7AE o f;8n f;7WAW o f;8n f;7U o f;8n f;7OE o f;8n f;7YU o f;8n f;7E o f;8n f;8k f
  FBF9 2UIGHUR KIRGHIZ YEH w HAMZA b w ALEF MAKSURA o f;9ALEF MAKSURA n f;9ALEF MAKSURA k f
  FBFC 1l FARSI YEH o f;4n f;4k f;4MEDIAL f;1LIGATURE YEH w HAMZA b w JEEM o f;7HAH o f;7MEEM o f
  FC03 7ALEF MAKSURA o f;7YEH o f;2BEH w JEEM o f;4HAH o f;4KHAH o f;4MEEM o f;4ALEF MAKSURA o f
  FC0A 4YEH o f;2TEH w JEEM o f;4HAH o f;4KHAH o f;4MEEM o f;4ALEF MAKSURA o f;4YEH o f
  FC11 2THEH w JEEM o f;4MEEM o f;4ALEF MAKSURA o f;4YEH o f;2JEEM w HAH o f;4MEEM o f
  FC17 2HAH w JEEM o f;4MEEM o f;2KHAH w JEEM o f;4HAH o f;4MEEM o f;2SEEN w JEEM o f;4HAH o f
  FC1E 4KHAH o f;4MEEM o f;2SAD w HAH o f;4MEEM o f;2DAD w JEEM o f;4HAH o f;4KHAH o f;4MEEM o f
  FC26 2TAH w HAH o f;4MEEM o f;2ZAH w MEEM o f;2AIN w JEEM o f;4MEEM o f;2GHAIN w JEEM o f
  FC2C 4MEEM o f;2FEH w JEEM o f;4HAH o f;4KHAH o f;4MEEM o f;4ALEF MAKSURA o f;4YEH o f
  FC33 2QAF w HAH o f;4MEEM o f;4ALEF MAKSURA o f;4YEH o f;2KAF w ALEF o f;4JEEM o f;4HAH o f
  FC3A 4KHAH o f;4LAM o f;4MEEM o f;4ALEF MAKSURA o f;4YEH o f;2LAM w JEEM o f;4HAH o f;4KHAH o f
  FC42 4MEEM o f;4ALEF MAKSURA o f;4YEH o f;2MEEM w JEEM o f;4HAH o f;4KHAH o f;4MEEM o f
  FC49 4ALEF MAKSURA o f;4YEH o f;2NOON w JEEM o f;4HAH o f;4KHAH o f;4MEEM o f;4ALEF MAKSURA o f
  FC50 4YEH o f;2HEH w JEEM o f;4MEEM o f;4ALEF MAKSURA o f;4YEH o f;2YEH w JEEM o f;4HAH o f
  FC57 4KHAH o f;4MEEM o f;4ALEF MAKSURA o f;4YEH o f;2THAL w SUPERSCRIPT ALEF o f
  FC5C 2REH w SUPERSCRIPT ALEF o f;2ALEF MAKSURA w SUPERSCRIPT ALEF o f;2SHADDA w DAMMATAN o f
  FC5F 4KASRATAN o f;4FATHA o f;4DAMMA o f;4KASRA o f;4SUPERSCRIPT ALEF o f
  FC64 2YEH w HAMZA b w REH n f;7ZAIN n f;7MEEM n f;7NOON n f;7ALEF MAKSURA n f;7YEH n f
  FC6A 2BEH w REH n f;4ZAIN n f;4MEEM n f;4NOON n f;4ALEF MAKSURA n f;4YEH n f;2TEH w REH n f
  FC71 4ZAIN n f;4MEEM n f;4NOON n f;4ALEF MAKSURA n f;4YEH n f;2THEH w REH n f;4ZAIN n f
  FC78 4MEEM n f;4NOON n f;4ALEF MAKSURA n f;4YEH n f;2FEH w ALEF MAKSURA n f;4YEH n f
  FC7E 2QAF w ALEF MAKSURA n f;4YEH n f;2KAF w ALEF n f;4LAM n f;4MEEM n f;4ALEF MAKSURA n f
  FC84 4YEH n f;2LAM w MEEM n f;4ALEF MAKSURA n f;4YEH n f;2MEEM w ALEF n f;4MEEM n f
  FC8A 2NOON w REH n f;4ZAIN n f;4MEEM n f;4NOON n f;4ALEF MAKSURA n f;4YEH n f
  FC90 2ALEF MAKSURA w SUPERSCRIPT ALEF n f;2YEH w REH n f;4ZAIN n f;4MEEM n f;4NOON n f
  FC95 4ALEF MAKSURA n f;4YEH n f;4HAMZA b w JEEM k f;7HAH k f;7KHAH k f;7MEEM k f;7HEH k f
  FC9C 2BEH w JEEM k f;4HAH k f;4KHAH k f;4MEEM k f;4HEH k f;2TEH w JEEM k f;4HAH k f;4KHAH k f
  FCA4 4MEEM k f;4HEH k f;2THEH w MEEM k f;2JEEM w HAH k f;4MEEM k f;2HAH w JEEM k f;4MEEM k f
  FCAB 2KHAH w JEEM k f;4MEEM k f;2SEEN w JEEM k f;4HAH k f;4KHAH k f;4MEEM k f;2SAD w HAH k f
  FCB2 4KHAH k f;4MEEM k f;2DAD w JEEM k f;4HAH k f;4KHAH k f;4MEEM k f;2TAH w HAH k f
  FCB9 2ZAH w MEEM k f;2AIN w JEEM k f;4MEEM k f;2GHAIN w JEEM k f;4MEEM k f;2FEH w JEEM k f
  FCBF 4HAH k f;4KHAH k f;4MEEM k f;2QAF w HAH k f;4MEEM k f;2KAF w JEEM k f;4HAH k f;4KHAH k f
  FCC7 4LAM k f;4MEEM k f;2LAM w JEEM k f;4HAH k f;4KHAH k f;4MEEM k f;4HEH k f;2MEEM w JEEM k f
  FCCF 4HAH k f;4KHAH k f;4MEEM k f;2NOON w JEEM k f;4HAH k f;4KHAH k f;4MEEM k f;4HEH k f
  FCD7 2HEH w JEEM k f;4MEEM k f;4SUPERSCRIPT ALEF k f;2YEH w JEEM k f;4HAH k f;4KHAH k f
  FCDD 4MEEM k f;4HEH k f;4HAMZA b w MEEM MEDIAL f;7HEH MEDIAL f;2BEH w MEEM MEDIAL f
  FCE2 4HEH MEDIAL f;2TEH w MEEM MEDIAL f;4HEH MEDIAL f;2THEH w MEEM MEDIAL f;4HEH MEDIAL f
  FCE7 2SEEN w MEEM MEDIAL f;4HEH MEDIAL f;2SHEEN w MEEM MEDIAL f;4HEH MEDIAL f
  FCEB 2KAF w LAM MEDIAL f;4MEEM MEDIAL f;2LAM w MEEM MEDIAL f;2NOON w MEEM MEDIAL f;4HEH MEDIAL f
  FCF0 2YEH w MEEM MEDIAL f;4HEH MEDIAL f;2SHADDA w FATHA MEDIAL f;4DAMMA MEDIAL f;4KASRA MEDIAL f
  FCF5 2TAH w ALEF MAKSURA o f;4YEH o f;2AIN w ALEF MAKSURA o f;4YEH o f;2GHAIN w ALEF MAKSURA o f
  FCFA 4YEH o f;2SEEN w ALEF MAKSURA o f;4YEH o f;2SHEEN w ALEF MAKSURA o f;4YEH o f
  FCFF 2HAH w ALEF MAKSURA o f;4YEH o f;2JEEM w ALEF MAKSURA o f;4YEH o f;2KHAH w ALEF MAKSURA o f
  FD04 4YEH o f;2SAD w ALEF MAKSURA o f;4YEH o f;2DAD w ALEF MAKSURA o f;4YEH o f
  FD09 2SHEEN w JEEM o f;4HAH o f;4KHAH o f;4MEEM o f;4REH o f;2SEEN w REH o f;2SAD w REH o f
  FD10 2DAD w REH o f;2TAH w ALEF MAKSURA n f;4YEH n f;2AIN w ALEF MAKSURA n f;4YEH n f
  FD15 2GHAIN w ALEF MAKSURA n f;4YEH n f;2SEEN w ALEF MAKSURA n f;4YEH n f
  FD19 2SHEEN w ALEF MAKSURA n f;4YEH n f;2HAH w ALEF MAKSURA n f;4YEH n f
  FD1D 2JEEM w ALEF MAKSURA n f;4YEH n f;2KHAH w ALEF MAKSURA n f;4YEH n f;2SAD w ALEF MAKSURA n f
  FD22 4YEH n f;2DAD w ALEF MAKSURA n f;4YEH n f;2SHEEN w JEEM n f;4HAH n f;4KHAH n f;4MEEM n f
  FD29 4REH n f;2SEEN w REH n f;2SAD w REH n f;2DAD w REH n f;2SHEEN w JEEM k f;4HAH k f;4KHAH k f
  FD30 4MEEM k f;2SEEN w HEH k f;2SHEEN w HEH k f;2TAH w MEEM k f;2SEEN w JEEM MEDIAL f
  FD35 4HAH MEDIAL f;4KHAH MEDIAL f;2SHEEN w JEEM MEDIAL f;4HAH MEDIAL f;4KHAH MEDIAL f
  FD3A 2TAH w MEEM MEDIAL f;2ZAH w MEEM MEDIAL f;2ALEF w FATHATAN n f;5o f;0ORNATE t PARENTHESIS
  FD3F 1r PARENTHESIS;0ARABIC LIGATURE RAHIMAHU ALLAAH;2RADI ALLAAHU ANH;4ANHAA;4ANHUM;4ANHUMAA
  FD45 4ANHUNNA;2SALLALLAAHU ALAYHI WA-AALIH;2ALAYHI AS-SALAAM;2ALAYHIM AS-SALAAM
  FD49 2ALAYHIMAA AS-SALAAM;2ALAYHI AS-SALAATU WAS-SALAAM;2QUDDISA SIRRAH
  FD4C 2SALLALLAHU ALAYHI WAAALIHEE WA-SALLAM;2ALAYHAA AS-SALAAM;2TABAARAKA WA-TAAALAA
  FD4F 2RAHIMAHUM ALLAAH;2TEH w JEEM w MEEM k f;4HAH w JEEM n f;7k f;6MEEM k f;4KHAH w MEEM k f
  FD55 4MEEM w JEEM k f;6HAH k f;6KHAH k f;2JEEM w MEEM w HAH n f;7k f;2HAH w MEEM w YEH n f
  FD5B 6ALEF MAKSURA n f;2SEEN w HAH w JEEM k f;4JEEM w HAH k f;6ALEF MAKSURA n f;4MEEM w HAH n f
  FD60 7k f;6JEEM k f;6MEEM n f;7k f;2SAD w HAH w HAH n f;7k f;4MEEM w MEEM n f
  FD67 2SHEEN w HAH w MEEM n f;7k f;4JEEM w YEH n f;4MEEM w KHAH n f;7k f;6MEEM n f;7k f
  FD6E 2DAD w HAH w ALEF MAKSURA n f;4KHAH w MEEM n f;7k f;2TAH w MEEM w HAH n f;7k f;6MEEM k f
  FD74 6YEH n f;2AIN w JEEM w MEEM n f;4MEEM w MEEM n f;7k f;6ALEF MAKSURA n f
  FD79 2GHAIN w MEEM w MEEM n f;6YEH n f;6ALEF MAKSURA n f;2FEH w KHAH w MEEM n f;7k f
  FD7E 2QAF w MEEM w HAH n f;6MEEM n f;2LAM w HAH w MEEM n f;6YEH n f;6ALEF MAKSURA n f
  FD83 4JEEM w JEEM k f;7n f;4KHAH w MEEM n f;7k f;4MEEM w HAH n f;7k f;2MEEM w HAH w JEEM k f
  FD8A 6MEEM k f;6YEH n f;4JEEM w HAH k f;6MEEM k f;4KHAH w JEEM k f;6MEEM k f
  FD92 4JEEM w KHAH k f;2HEH w MEEM w JEEM k f;6MEEM k f;2NOON w HAH w MEEM k f;6ALEF MAKSURA n f
  FD97 4JEEM w MEEM n f;7k f;6ALEF MAKSURA n f;4MEEM w YEH n f;6ALEF MAKSURA n f
  FD9C 2YEH w MEEM w MEEM n f;7k f;2BEH w KHAH w YEH n f;2TEH w JEEM w YEH n f;6ALEF MAKSURA n f
  FDA1 4KHAH w YEH n f;6ALEF MAKSURA n f;4MEEM w YEH n f;6ALEF MAKSURA n f;2JEEM w MEEM w YEH n f
  FDA6 4HAH w ALEF MAKSURA n f;4MEEM w ALEF MAKSURA n f;2SEEN w KHAH w ALEF MAKSURA n f
  FDA9 2SAD w HAH w YEH n f;2SHEEN w HAH w YEH n f;2DAD w HAH w YEH n f;2LAM w JEEM w YEH n f
  FDAD 4MEEM w YEH n f;2YEH w HAH w YEH n f;4JEEM w YEH n f;4MEEM w YEH n f;2MEEM w MEEM w YEH n f
  FDB2 2QAF w MEEM w YEH n f;2NOON w HAH w YEH n f;2QAF w MEEM w HAH k f;2LAM w HAH w MEEM k f
  FDB6 2AIN w MEEM w YEH n f;2KAF w MEEM w YEH n f;2NOON w JEEM w HAH k f;2MEEM w KHAH w YEH n f
  FDBA 2LAM w JEEM w MEEM k f;2KAF w MEEM w MEEM n f;2LAM w JEEM w MEEM n f;2NOON w JEEM w HAH n f
  FDBE 2JEEM w HAH w YEH n f;2HAH w JEEM w YEH n f;2MEEM w JEEM w YEH n f;2FEH w MEEM w YEH n f
  FDC2 2BEH w HAH w YEH n f;2KAF w MEEM w MEEM k f;2AIN w JEEM w MEEM k f;2SAD w MEEM w MEEM k f
  FDC6 2SEEN w KHAH w YEH n f;2NOON w JEEM w YEH n f
  FDCF 2SALAAMUHU ALAYNAA
  FDF0 2SALLA USED AS KORANIC STOP i o f;2QALA USED AS KORANIC STOP i o f;2ALLAH o f;2AKBAR o f
  FDF4 2MOHAMMAD o f;2SALAM o f;2RASOUL o f;2ALAYHE o f;2WASALLAM o f;2SALLA o f
  FDFA 2SALLALLAHOU ALAYHE WASALLAM;2JALLAJALALOUHOU;0RIAL i
  FDFD 0ARABIC LIGATURE BISMILLAH AR-RAHMAN AR-RAHEEM;2SUBHAANAHU WA TAAALAA;2AZZA WA JALL
  FE00 0VARIATION SELECTOR-1;1SELECTOR-2;1SELECTOR-3;1SELECTOR-4;1SELECTOR-5;1SELECTOR-6
  FE06 1SELECTOR-7;1SELECTOR-8;1SELECTOR-9;1SELECTOR-10;1SELECTOR-11;1SELECTOR-12;1SELECTOR-13
  FE0D 1SELECTOR-14;1SELECTOR-15;1SELECTOR-16;0PRESENTATION f FOR v COMMA;4IDEOGRAPHIC COMMA
  FE12 5FULL STOP;4COLON;4SEMICOLON;4EXCLAMATION MARK;4QUESTION MARK;4t x LENTICULAR BRACKET
  FE18 4r x LENTICULAR BRAKCET;4z ELLIPSIS
  FE20 0COMBINING LIGATURE t HALF;2r HALF;1d TILDE t HALF;3r HALF;1MACRON t HALF;2r HALF
  FE26 1CONJOINING MACRON;1LIGATURE t HALF e;2r HALF e;1TILDE t HALF e;2r HALF e;1MACRON t HALF e
  FE2C 2r HALF e;1CONJOINING MACRON e;1CYRILLIC TITLO t HALF;3r HALF
  FE30 0PRESENTATION f FOR v TWO DOT LEADER;4EM DASH;4EN DASH;4LOW LINE;4WAVY LOW LINE
  FE35 4t PARENTHESIS;4r PARENTHESIS;4t CURLY BRACKET;4r CURLY BRACKET;4t TORTOISE SHELL BRACKET
  FE3A 4r TORTOISE SHELL BRACKET;4t u LENTICULAR BRACKET;4r u LENTICULAR BRACKET
  FE3D 4t d ANGLE BRACKET;4r d ANGLE BRACKET;4t ANGLE BRACKET;4r ANGLE BRACKET;4t CORNER BRACKET
  FE42 4r CORNER BRACKET;4t x CORNER BRACKET;4r x CORNER BRACKET;0SESAME DOT;0x SESAME DOT
  FE47 0PRESENTATION f FOR v t SQUARE BRACKET;4r SQUARE BRACKET;0DASHED OVERLINE
  FE4A 0CENTRELINE OVERLINE;0WAVY OVERLINE;0d WAVY OVERLINE;0DASHED LOW LINE;0CENTRELINE LOW LINE
  FE4F 0WAVY LOW LINE;0s COMMA;1IDEOGRAPHIC COMMA;1FULL STOP
  FE54 1SEMICOLON;1COLON;1QUESTION MARK;1EXCLAMATION MARK;1EM DASH;1t PARENTHESIS;1r PARENTHESIS
  FE5B 1t CURLY BRACKET;1r CURLY BRACKET;1t TORTOISE SHELL BRACKET;1r TORTOISE SHELL BRACKET
  FE5F 1NUMBER i;1AMPERSAND;1ASTERISK;1PLUS i;1HYPHEN-MINUS;1LESS-THAN i;1GREATER-THAN i;1EQUALS i
  FE68 1REVERSE SOLIDUS;1DOLLAR i;1PERCENT i;1COMMERCIAL AT
  FE70 0ARABIC FATHATAN o f;1TATWEEL w FATHATAN b;1DAMMATAN o f;1TAIL FRAGMENT;1KASRATAN o f
  FE76 1FATHA o f;2MEDIAL f;1DAMMA o f;2MEDIAL f;1KASRA o f;2MEDIAL f;1SHADDA o f;2MEDIAL f
  FE7E 1SUKUN o f;2MEDIAL f;1l HAMZA o f;2ALEF w MADDA b o f;6n f;4HAMZA b o f;6n f
  FE85 2WAW w HAMZA b o f;6n f;2ALEF w HAMZA e o f;6n f;2YEH w HAMZA b o f;6n f;6k f;6MEDIAL f
  FE8D 2ALEF o f;3n f;2BEH o f;3n f;3k f;3MEDIAL f;2TEH MARBUTA o f;4n f;3o f;3n f;3k f;3MEDIAL f
  FE99 2THEH o f;3n f;3k f;3MEDIAL f;2JEEM o f;3n f;3k f;3MEDIAL f;2HAH o f;3n f;3k f;3MEDIAL f
  FEA5 2KHAH o f;3n f;3k f;3MEDIAL f;2DAL o f;3n f;2THAL o f;3n f;2REH o f;3n f;2ZAIN o f;3n f
  FEB1 2SEEN o f;3n f;3k f;3MEDIAL f;2SHEEN o f;3n f;3k f;3MEDIAL f;2SAD o f;3n f;3k f;3MEDIAL f
  FEBD 2DAD o f;3n f;3k f;3MEDIAL f;2TAH o f;3n f;3k f;3MEDIAL f;2ZAH o f;3n f;3k f;3MEDIAL f
  FEC9 2AIN o f;3n f;3k f;3MEDIAL f;2GHAIN o f;3n f;3k f;3MEDIAL f;2FEH o f;3n f;3k f;3MEDIAL f
  FED5 2QAF o f;3n f;3k f;3MEDIAL f;2KAF o f;3n f;3k f;3MEDIAL f;2LAM o f;3n f;3k f;3MEDIAL f
  FEE1 2MEEM o f;3n f;3k f;3MEDIAL f;2NOON o f;3n f;3k f;3MEDIAL f;2HEH o f;3n f;3k f;3MEDIAL f
  FEED 2WAW o f;3n f;2ALEF MAKSURA o f;4n f;2YEH o f;3n f;3k f;3MEDIAL f
  FEF5 1LIGATURE LAM w ALEF w MADDA b o f;8n f;6HAMZA b o f;8n f;7e o f;8n f;5o f;5n f
  FEFF 0ZERO WIDTH NO-BREAK SPACE
  FF01 0FULLWIDTH EXCLAMATION MARK;1QUOTATION MARK;1NUMBER i;1DOLLAR i;1PERCENT i;1AMPERSAND
  FF07 1APOSTROPHE;1t PARENTHESIS;1r PARENTHESIS;1ASTERISK;1PLUS i;1COMMA;1HYPHEN-MINUS;1FULL STOP
  FF0F 1SOLIDUS;1DIGIT ZERO;2ONE;2TWO;2m;2FOUR;2FIVE;2SIX;2SEVEN;2EIGHT;2NINE;1COLON;1SEMICOLON
  FF1C 1LESS-THAN i;1EQUALS i;1GREATER-THAN i;1QUESTION MARK;1COMMERCIAL AT;1LATIN c l A;4B;4C;4D
  FF25 4E;4F;4G;4H;4I;4J;4K;4L;4M;4N;4O;4P;4Q;4R;4S;4T;4U;4V;4W;4X;4Y;4Z;1t SQUARE BRACKET
  FF3C 1REVERSE SOLIDUS;1r SQUARE BRACKET;1CIRCUMFLEX ACCENT;1LOW LINE;1GRAVE ACCENT;1LATIN s l A
  FF42 4B;4C;4D;4E;4F;4G;4H;4I;4J;4K;4L;4M;4N;4O;4P;4Q;4R;4S;4T;4U;4V;4W;4X;4Y;4Z;1t CURLY BRACKET
  FF5C 1v LINE;1r CURLY BRACKET;1TILDE;1t x PARENTHESIS;1r x PARENTHESIS
  FF61 0HALFWIDTH IDEOGRAPHIC FULL STOP;1t CORNER BRACKET;1r CORNER BRACKET;1IDEOGRAPHIC COMMA
  FF65 1KATAKANA MIDDLE DOT;2l WO;3s A;4I;4U;4E;4O;4YA;4YU;4YO;4TU
  FF70 1KATAKANA-HIRAGANA PROLONGED SOUND MARK;1KATAKANA l A;3I;3U;3E;3O;3KA;3KI;3KU;3KE;3KO;3SA
  FF7C 3SI;3SU;3SE;3SO;3TA;3TI;3TU;3TE;3TO;3NA;3NI;3NU;3NE;3NO;3HA;3HI;3HU;3HE;3HO;3MA;3MI;3MU;3ME
  FF93 3MO;3YA;3YU;3YO;3RA;3RI;3RU;3RE;3RO;3WA;3N;2VOICED SOUND MARK;2SEMI-VOICED SOUND MARK
  FFA0 1HANGUL FILLER;2l KIYEOK;3SSANGKIYEOK;3KIYEOK-SIOS;3NIEUN;3NIEUN-CIEUC;3NIEUN-HIEUH;3TIKEUT
  FFA8 3SSANGTIKEUT;3RIEUL;3RIEUL-KIYEOK;3RIEUL-MIEUM;3RIEUL-PIEUP;3RIEUL-SIOS;3RIEUL-THIEUTH
  FFAF 3RIEUL-PHIEUPH;3RIEUL-HIEUH;3MIEUM;3PIEUP;3SSANGPIEUP;3PIEUP-SIOS;3SIOS;3SSANGSIOS;3IEUNG
  FFB8 3CIEUC;3SSANGCIEUC;3CHIEUCH;3KHIEUKH;3THIEUTH;3PHIEUPH;3HIEUH
  FFC2 3A;3AE;3YA;3YAE;3EO;3E
  FFCA 3YEO;3YE;3O;3WA;3WAE;3OE
  FFD2 3YO;3U;3WEO;3WE;3WI;3YU
  FFDA 3EU;3YI;3I
  FFE0 0FULLWIDTH CENT i;1POUND i;1NOT i;1MACRON;1BROKEN BAR;1YEN i;1WON i
  FFE8 0HALFWIDTH FORMS LIGHT v;1j a;1UPWARDS a;1g a;1DOWNWARDS a;1u SQUARE;1x CIRCLE
  FFF9 0INTERLINEAR ANNOTATION ANCHOR;2SEPARATOR;2TERMINATOR;0OBJECT REPLACEMENT CHARACTER
  FFFD 0REPLACEMENT CHARACTER"

end Dialect.Text.CharName
