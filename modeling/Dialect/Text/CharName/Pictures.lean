namespace Dialect.Text.CharName

-- Characters from 1D000 on: music, mathematical letters, pictures and marks.
def pictures : String := "
  1D000 0BYZANTINE MUSICAL y PSILI;3DASEIA;3PERISPOMENI;3OXEIA EKFONITIKON;4DIPLI
  1D005 3VAREIA EKFONITIKON;4DIPLI;3KATHISTI;3SYRMATIKI;3PARAKLITIKI;3YPOKRISIS;4DIPLI;3KREMASTI
  1D00D 3APESO EKFONITIKON;3EXO EKFONITIKON;3TELEIA;3KENTIMATA;3APOSTROFOS;4DIPLI;3SYNEVMA;3THITA
  1D015 3OLIGON ARCHAION;3GORGON ARCHAION;3PSILON;3CHAMILON;3VATHY;3ISON ARCHAION
  1D01B 3KENTIMA ARCHAION;3KENTIMATA ARCHAION;3SAXIMATA;3PARICHON;3STAVROS APODEXIA
  1D020 3OXEIAI ARCHAION;3VAREIAI ARCHAION;3APODERMA ARCHAION;3APOTHEMA;3KLASMA;3REVMA
  1D026 3PIASMA ARCHAION;3TINAGMA;3ANATRICHISMA;3SEISMA;3SYNAGMA ARCHAION;4META STAVROU
  1D02C 3OYRANISMA ARCHAION;3THEMA;3LEMOI;3DYO;3TRIA;3TESSERA;3KRATIMATA;3APESO EXO NEO
  1D034 3FTHORA ARCHAION;3IMIFTHORA;3TROMIKON ARCHAION;3KATAVA TROMIKON;3PELASTON;3PSIFISTON
  1D03A 3KONTEVMA;3CHOREVMA ARCHAION;3RAPISMA;3PARAKALESMA ARCHAION;3PARAKLITIKI ARCHAION;3ICHADIN
  1D040 3NANA;3PETASMA;3KONTEVMA ALLO;3TROMIKON ALLO;3STRAGGISMATA;3GRONTHISMATA;3ISON NEO
  1D047 3OLIGON NEO;3OXEIA NEO;3PETASTI;3KOUFISMA;3PETASTOKOUFISMA;3KRATIMOKOUFISMA;3PELASTON NEO
  1D04E 3KENTIMATA NEO ANO;3KENTIMA NEO ANO;3YPSILI;3APOSTROFOS NEO;3APOSTROFOI SYNDESMOS NEO
  1D053 3YPORROI;3KRATIMOYPORROON;3ELAFRON;3CHAMILI;3MIKRON ISON;3VAREIA NEO;3PIASMA NEO
  1D05A 3PSIFISTON NEO;3OMALON;3ANTIKENOMA;3LYGISMA;3PARAKLITIKI NEO;3PARAKALESMA NEO
  1D060 3ETERON PARAKALESMA;3KYLISMA;3ANTIKENOKYLISMA;3TROMIKON NEO;3EKSTREPTON;3SYNAGMA NEO
  1D066 3SYRMA;3CHOREVMA NEO;3EPEGERMA;3SEISMA NEO;3XIRON KLASMA;3TROMIKOPSIFISTON
  1D06C 3PSIFISTOLYGISMA;3TROMIKOLYGISMA;3TROMIKOPARAKALESMA;3PSIFISTOPARAKALESMA;3TROMIKOSYNAGMA
  1D071 3PSIFISTOSYNAGMA;3GORGOSYNTHETON;3ARGOSYNTHETON;3ETERON ARGOSYNTHETON;3OYRANISMA NEO
  1D076 3THEMATISMOS ESO;4EXO;3THEMA APLOUN;3THES KAI APOTHES;3KATAVASMA;3ENDOFONON;3YFEN KATO
  1D07D 4ANO;3STAVROS;3KLASMA ANO;3DIPLI ARCHAION;3KRATIMA ARCHAION;4ALLO;4NEO;3APODERMA NEO;3APLI
  1D086 3DIPLI;3TRIPLI;3TETRAPLI;3KORONIS;3LEIMMA ENOS CHRONOU;4DYO CHRONON;4TRION CHRONON
  1D08D 4TESSARON CHRONON;4IMISEOS CHRONOU;3GORGON NEO ANO;4PARESTIGMENON ARISTERA;5DEXIA
  1D092 3DIGORGON;4PARESTIGMENON ARISTERA KATO;6ANO;5DEXIA;3TRIGORGON;3ARGON;3IMIDIARGON;3DIARGON
  1D09A 3AGOGI POLI ARGI;4ARGOTERI;4ARGI;4METRIA;4MESI;4GORGI;4GORGOTERI;4POLI GORGI
  1D0A2 3MARTYRIA PROTOS ICHOS;4ALLI PROTOS ICHOS;4DEYTEROS ICHOS;4ALLI DEYTEROS ICHOS
  1D0A6 4TRITOS ICHOS;4TRIFONIAS;4TETARTOS ICHOS;5LEGETOS ICHOS;4LEGETOS ICHOS;4PLAGIOS ICHOS
  1D0AC 3ISAKIA TELOUS ICHIMATOS;3APOSTROFOI TELOUS ICHIMATOS;3FANEROSIS TETRAFONIAS;4MONOFONIAS
  1D0B0 4DIFONIAS;3MARTYRIA VARYS ICHOS;4PROTOVARYS ICHOS;4PLAGIOS TETARTOS ICHOS
  1D0B4 3GORTHMIKON N APLOUN;5DIPLOUN;3ENARXIS KAI FTHORA VOU;3IMIFONON;3IMIFTHORON
  1D0B9 3FTHORA ARCHAION DEYTEROU ICHOU;4DIATONIKI PA;5NANA;4NAOS ICHOS;4DIATONIKI DI
  1D0BE 4SKLIRON DIATONON DI;4DIATONIKI KE;5ZO;5NI KATO;6ANO;4MALAKON CHROMA DIFONIAS;6MONOFONIAS
  1D0C5 3FHTORA SKLIRON CHROMA VASIS;3FTHORA SKLIRON CHROMA SYNAFI;4NENANO;3CHROA ZYGOS;4KLITON
  1D0CA 4SPATHI;3FTHORA I YFESIS TETARTIMORION;4ENARMONIOS ANTIFONIA;3YFESIS TRITIMORION
  1D0CE 3DIESIS TRITIMORION;4TETARTIMORION;4APLI DYO DODEKATA;4MONOGRAMMOS TESSERA DODEKATA
  1D0D2 4DIGRAMMOS EX DODEKATA;4TRIGRAMMOS OKTO DODEKATA;3YFESIS APLI DYO DODEKATA
  1D0D5 4MONOGRAMMOS TESSERA DODEKATA;4DIGRAMMOS EX DODEKATA;4TRIGRAMMOS OKTO DODEKATA
  1D0D8 3GENIKI DIESIS;4YFESIS;3DIASTOLI APLI MIKRI;5MEGALI;4DIPLI;4THESEOS;3SIMANSIS THESEOS
  1D0DF 5DISIMOU;5TRISIMOU;5TETRASIMOU;4ARSEOS;5DISIMOU;5TRISIMOU;5TETRASIMOU;3DIGRAMMA GG
  1D0E7 3DIFTOGGOS OU;3STIGMA;3ARKTIKO PA;4VOU;4GA;4DI;4KE;4ZO;4NI;3KENTIMATA NEO MESO
  1D0F1 3KENTIMA NEO MESO;3KENTIMATA NEO KATO;3KENTIMA NEO KATO;3KLASMA KATO;3GORGON NEO KATO
  1D100 0MUSICAL y SINGLE BARLINE;2d BARLINE;2n BARLINE;2REVERSE n BARLINE;2DASHED BARLINE
  1D105 2SHORT BARLINE;2t REPEAT i;2r REPEAT i;2REPEAT DOTS;2DAL SEGNO;2DA CAPO;2SEGNO;2CODA
  1D10D 2REPEATED FIGURE-1;3FIGURE-2;3FIGURE-3;2FERMATA;3e;2BREATH MARK;2CAESURA;2BRACE;2BRACKET
  1D116 2ONE-LINE STAFF;2TWO-LINE STAFF;2THREE-LINE STAFF;2FOUR-LINE STAFF;2FIVE-LINE STAFF
  1D11B 2SIX-LINE STAFF;2SIX-STRING FRETBOARD;2FOUR-STRING FRETBOARD;2G CLEF;4OTTAVA ALTA;5BASSA
  1D121 2C CLEF;2F CLEF;4OTTAVA ALTA;5BASSA;2DRUM CLEF-1;3CLEF-2
  1D129 2MULTIPLE MEASURE REST;2d SHARP;3FLAT;2FLAT UP;3DOWN;2NATURAL UP;3DOWN;2SHARP UP;3DOWN
  1D132 2QUARTER TONE SHARP;4FLAT;2COMMON TIME;2CUT TIME;2OTTAVA ALTA;3BASSA;2QUINDICESIMA ALTA
  1D139 3BASSA;2MULTI REST;2WHOLE REST;2HALF REST;2QUARTER REST;2EIGHTH REST;2SIXTEENTH REST
  1D140 2THIRTY-SECOND REST;2SIXTY-FOURTH REST;2ONE HUNDRED TWENTY-EIGHTH REST;2X NOTEHEAD
  1D144 2PLUS NOTEHEAD;2CIRCLE X NOTEHEAD;2SQUARE NOTEHEAD x;4u;2TRIANGLE NOTEHEAD UP x;5u;4t x;5u
  1D14C 4r x;5u;4DOWN x;5u;4UP r x;6u;2MOON NOTEHEAD x;4u;2TRIANGLE-ROUND NOTEHEAD DOWN x;5u
  1D156 2PARENTHESIS NOTEHEAD;2VOID NOTEHEAD;2NOTEHEAD u;2NULL NOTEHEAD;2CLUSTER NOTEHEAD x;4u
  1D15C 2BREVE;2WHOLE NOTE;2HALF NOTE;2QUARTER NOTE;2EIGHTH NOTE;2SIXTEENTH NOTE
  1D162 2THIRTY-SECOND NOTE;2SIXTY-FOURTH NOTE;2ONE HUNDRED TWENTY-EIGHTH NOTE;2COMBINING STEM
  1D166 3SPRECHGESANG STEM;3TREMOLO-1;3TREMOLO-2;3TREMOLO-3;2FINGERED TREMOLO-1;3TREMOLO-2
  1D16C 3TREMOLO-3;2COMBINING AUGMENTATION DOT;3FLAG-1;3FLAG-2;3FLAG-3;3FLAG-4;3FLAG-5;2BEGIN BEAM
  1D174 2END BEAM;2BEGIN TIE;2END TIE;2BEGIN SLUR;2END SLUR;2BEGIN PHRASE;2END PHRASE
  1D17B 2COMBINING ACCENT;3STACCATO;3TENUTO;3STACCATISSIMO;3MARCATO;3MARCATO-STACCATO
  1D181 3ACCENT-STACCATO;3LOURE;2ARPEGGIATO UP;3DOWN;2COMBINING DOIT;3RIP;3FLIP;3SMEAR;3BEND
  1D18A 3d TONGUE;3TRIPLE TONGUE;2RINFORZANDO;2SUBITO;2Z;2PIANO;2MEZZO;2FORTE;2CRESCENDO
  1D193 2DECRESCENDO;2GRACE NOTE SLASH;4NO SLASH;2TR;2TURN;2INVERTED TURN;2TURN SLASH;3UP
  1D19B 2ORNAMENT STROKE-1;3STROKE-2;3STROKE-3;3STROKE-4;3STROKE-5;3STROKE-6;3STROKE-7;3STROKE-8
  1D1A3 3STROKE-9;3STROKE-10;3STROKE-11;2HAUPTSTIMME;2NEBENSTIMME;2END OF STIMME;2DEGREE SLASH
  1D1AA 2COMBINING DOWN BOW;3UP BOW;3HARMONIC;3SNAP PIZZICATO;2PEDAL MARK;3UP MARK
  1D1B0 2HALF PEDAL MARK;2GLISSANDO UP;3DOWN;2w FINGERNAILS;2DAMP;3ALL;2MAXIMA;2LONGA;2BREVIS
  1D1B9 2SEMIBREVIS x;3u;2MINIMA;3u;2SEMIMINIMA x;3u;2FUSA x;3u;2LONGA PERFECTA REST
  1D1C2 3IMPERFECTA REST;2BREVIS REST;2SEMIBREVIS REST;2MINIMA REST;2SEMIMINIMA REST
  1D1C7 2TEMPUS PERFECTUM CUM PROLATIONE PERFECTA;6IMPERFECTA;6PERFECTA DIMINUTION-1
  1D1CA 3IMPERFECTUM CUM PROLATIONE PERFECTA;6IMPERFECTA;7DIMINUTION-1;7DIMINUTION-2;7DIMINUTION-3
  1D1CF 2CROIX;2GREGORIAN C CLEF;3F CLEF;2SQUARE B;2VIRGA;2PODATUS;2CLIVIS;2SCANDICUS;2CLIMACUS
  1D1D8 2TORCULUS;2PORRECTUS;3FLEXUS;2SCANDICUS FLEXUS;2TORCULUS RESUPINUS;2PES SUBPUNCTIS
  1D1DE 2KIEVAN C CLEF;3END OF PIECE;3n NOTE;3RECITATIVE MARK;3WHOLE NOTE;3HALF NOTE
  1D1E4 3QUARTER NOTE STEM DOWN;6UP;3EIGHTH NOTE STEM DOWN;6UP;3FLAT i;2SORI;2KORON
  1D200 0GREEK VOCAL NOTATION SYMBOL-1;3SYMBOL-2;3SYMBOL-3;3SYMBOL-4;3SYMBOL-5;3SYMBOL-6;3SYMBOL-7
  1D207 3SYMBOL-8;3SYMBOL-9;3SYMBOL-10;3SYMBOL-11;3SYMBOL-12;3SYMBOL-13;3SYMBOL-14;3SYMBOL-15
  1D20F 3SYMBOL-16;3SYMBOL-17;3SYMBOL-18;3SYMBOL-19;3SYMBOL-20;3SYMBOL-21;3SYMBOL-22;3SYMBOL-23
  1D217 3SYMBOL-24;3SYMBOL-50;3SYMBOL-51;3SYMBOL-52;3SYMBOL-53;3SYMBOL-54
  1D21D 1INSTRUMENTAL NOTATION SYMBOL-1;3SYMBOL-2;3SYMBOL-4;3SYMBOL-5;3SYMBOL-7;3SYMBOL-8
  1D223 3SYMBOL-11;3SYMBOL-12;3SYMBOL-13;3SYMBOL-14;3SYMBOL-17;3SYMBOL-18;3SYMBOL-19;3SYMBOL-23
  1D22B 3SYMBOL-24;3SYMBOL-25;3SYMBOL-26;3SYMBOL-27;3SYMBOL-29;3SYMBOL-30;3SYMBOL-32;3SYMBOL-36
  1D233 3SYMBOL-37;3SYMBOL-38;3SYMBOL-39;3SYMBOL-40;3SYMBOL-42;3SYMBOL-43;3SYMBOL-45;3SYMBOL-47
  1D23B 3SYMBOL-48;3SYMBOL-49;3SYMBOL-50;3SYMBOL-51;3SYMBOL-52;3SYMBOL-53;3SYMBOL-54
  1D242 0COMBINING GREEK MUSICAL TRISEME;3TETRASEME;3PENTASEME;0GREEK MUSICAL LEIMMA
  1D2E0 0MAYAN NUMERAL ZERO;2ONE;2TWO;2m;2FOUR;2FIVE;2SIX;2SEVEN;2EIGHT;2NINE;2TEN;2ELEVEN;2TWELVE
  1D2ED 2THIRTEEN;2FOURTEEN;2FIFTEEN;2SIXTEEN;2SEVENTEEN;2EIGHTEEN;2NINETEEN
  1D300 0MONOGRAM FOR EARTH;0DIGRAM FOR HEAVENLY EARTH;2HUMAN EARTH;2EARTHLY HEAVEN;3HUMAN;2EARTH
  1D306 0TETRAGRAM FOR CENTRE;2FULL CIRCLE;2MIRED;2BARRIER;2KEEPING s;2CONTRARIETY;2ASCENT
  1D30D 2OPPOSITION;2BRANCHING OUT;2DEFECTIVENESS OR DISTORTION;2DIVERGENCE;2YOUTHFULNESS
  1D312 2INCREASE;2PENETRATION;2REACH;2CONTACT;2HOLDING BACK;2WAITING;2FOLLOWING;2ADVANCE;2RELEASE
  1D31B 2RESISTANCE;2EASE;2JOY;2CONTENTION;2ENDEAVOUR;2DUTIES;2CHANGE;2DECISIVENESS
  1D323 2BOLD RESOLUTION;2PACKING;2LEGION;2CLOSENESS;2KINSHIP;2GATHERING;2STRENGTH;2PURITY
  1D32B 2FULLNESS;2RESIDENCE;2LAW OR MODEL;2RESPONSE;2GOING TO MEET;2ENCOUNTERS;2STOVE;2GREATNESS
  1D333 2ENLARGEMENT;2PATTERN;2RITUAL;2FLIGHT;2VASTNESS OR WASTING;2CONSTANCY;2MEASURE;2ETERNITY
  1D33B 2UNITY;2DIMINISHMENT;2CLOSED MOUTH;2GUARDEDNESS;2GATHERING IN;2MASSING;2ACCUMULATION
  1D342 2EMBELLISHMENT;2DOUBT;2WATCH;2SINKING;2INNER;2DEPARTURE;2DARKENING;2DIMMING;2EXHAUSTION
  1D34B 2SEVERANCE;2STOPPAGE;2HARDNESS;2COMPLETION;2CLOSURE;2FAILURE;2AGGRAVATION;2COMPLIANCE
  1D353 2ON THE VERGE;2DIFFICULTIES;2LABOURING;2FOSTERING
  1D360 0COUNTING ROD UNIT DIGIT ONE;4TWO;4m;4FOUR;4FIVE;4SIX;4SEVEN;4EIGHT;4NINE;2TENS DIGIT ONE
  1D36A 4TWO;4m;4FOUR;4FIVE;4SIX;4SEVEN;4EIGHT;4NINE;0IDEOGRAPHIC TALLY MARK ONE;3TWO;3m;3FOUR
  1D376 3FIVE;0TALLY MARK ONE;2FIVE
  1D400 0MATHEMATICAL BOLD c A;3B;3C;3D;3E;3F;3G;3H;3I;3J;3K;3L;3M;3N;3O;3P;3Q;3R;3S;3T;3U;3V;3W
  1D417 3X;3Y;3Z;2s A;3B;3C;3D;3E;3F;3G;3H;3I;3J;3K;3L;3M;3N;3O;3P;3Q;3R;3S;3T;3U;3V;3W;3X;3Y;3Z
  1D434 1ITALIC c A;3B;3C;3D;3E;3F;3G;3H;3I;3J;3K;3L;3M;3N;3O;3P;3Q;3R;3S;3T;3U;3V;3W;3X;3Y;3Z
  1D44E 2s A;3B;3C;3D;3E;3F;3G
  1D456 3I;3J;3K;3L;3M;3N;3O;3P;3Q;3R;3S;3T;3U;3V;3W;3X;3Y;3Z;1BOLD ITALIC c A;4B;4C;4D;4E;4F;4G
  1D46F 4H;4I;4J;4K;4L;4M;4N;4O;4P;4Q;4R;4S;4T;4U;4V;4W;4X;4Y;4Z;3s A;4B;4C;4D;4E;4F;4G;4H;4I;4J
  1D48C 4K;4L;4M;4N;4O;4P;4Q;4R;4S;4T;4U;4V;4W;4X;4Y;4Z;1SCRIPT c A
  1D49E 3C;3D
  1D4A2 3G
  1D4A5 3J;3K
  1D4A9 3N;3O;3P;3Q
  1D4AE 3S;3T;3U;3V;3W;3X;3Y;3Z;2s A;3B;3C;3D
  1D4BB 3F
  1D4BD 3H;3I;3J;3K;3L;3M;3N
  1D4C5 3P;3Q;3R;3S;3T;3U;3V;3W;3X;3Y;3Z;1BOLD SCRIPT c A;4B;4C;4D;4E;4F;4G;4H;4I;4J;4K;4L;4M;4N
  1D4DE 4O;4P;4Q;4R;4S;4T;4U;4V;4W;4X;4Y;4Z;3s A;4B;4C;4D;4E;4F;4G;4H;4I;4J;4K;4L;4M;4N;4O;4P;4Q
  1D4FB 4R;4S;4T;4U;4V;4W;4X;4Y;4Z;1FRAKTUR c A;3B
  1D507 3D;3E;3F;3G
  1D50D 3J;3K;3L;3M;3N;3O;3P;3Q
  1D516 3S;3T;3U;3V;3W;3X;3Y
  1D51E 2s A;3B;3C;3D;3E;3F;3G;3H;3I;3J;3K;3L;3M;3N;3O;3P;3Q;3R;3S;3T;3U;3V;3W;3X;3Y;3Z
  1D538 1DOUBLE-STRUCK c A;3B
  1D53B 3D;3E;3F;3G
  1D540 3I;3J;3K;3L;3M
  1D546 3O
  1D54A 3S;3T;3U;3V;3W;3X;3Y
  1D552 2s A;3B;3C;3D;3E;3F;3G;3H;3I;3J;3K;3L;3M;3N;3O;3P;3Q;3R;3S;3T;3U;3V;3W;3X;3Y;3Z
  1D56C 1BOLD FRAKTUR c A;4B;4C;4D;4E;4F;4G;4H;4I;4J;4K;4L;4M;4N;4O;4P;4Q;4R;4S;4T;4U;4V;4W;4X;4Y
  1D585 4Z;3s A;4B;4C;4D;4E;4F;4G;4H;4I;4J;4K;4L;4M;4N;4O;4P;4Q;4R;4S;4T;4U;4V;4W;4X;4Y;4Z
  1D5A0 1SANS-SERIF c A;3B;3C;3D;3E;3F;3G;3H;3I;3J;3K;3L;3M;3N;3O;3P;3Q;3R;3S;3T;3U;3V;3W;3X;3Y;3Z
  1D5BA 2s A;3B;3C;3D;3E;3F;3G;3H;3I;3J;3K;3L;3M;3N;3O;3P;3Q;3R;3S;3T;3U;3V;3W;3X;3Y;3Z;2BOLD c A
  1D5D5 4B;4C;4D;4E;4F;4G;4H;4I;4J;4K;4L;4M;4N;4O;4P;4Q;4R;4S;4T;4U;4V;4W;4X;4Y;4Z;3s A;4B;4C;4D
  1D5F2 4E;4F;4G;4H;4I;4J;4K;4L;4M;4N;4O;4P;4Q;4R;4S;4T;4U;4V;4W;4X;4Y;4Z;2ITALIC c A;4B;4C;4D;4E
  1D60D 4F;4G;4H;4I;4J;4K;4L;4M;4N;4O;4P;4Q;4R;4S;4T;4U;4V;4W;4X;4Y;4Z;3s A;4B;4C;4D;4E;4F;4G;4H
  1D62A 4I;4J;4K;4L;4M;4N;4O;4P;4Q;4R;4S;4T;4U;4V;4W;4X;4Y;4Z;2BOLD ITALIC c A;5B;5C;5D;5E;5F;5G
  1D643 5H;5I;5J;5K;5L;5M;5N;5O;5P;5Q;5R;5S;5T;5U;5V;5W;5X;5Y;5Z;4s A;5B;5C;5D;5E;5F;5G;5H;5I;5J
  1D660 5K;5L;5M;5N;5O;5P;5Q;5R;5S;5T;5U;5V;5W;5X;5Y;5Z;1MONOSPACE c A;3B;3C;3D;3E;3F;3G;3H;3I;3J
  1D67A 3K;3L;3M;3N;3O;3P;3Q;3R;3S;3T;3U;3V;3W;3X;3Y;3Z;2s A;3B;3C;3D;3E;3F;3G;3H;3I;3J;3K;3L;3M
  1D697 3N;3O;3P;3Q;3R;3S;3T;3U;3V;3W;3X;3Y;3Z;1ITALIC s DOTLESS I;4J
  1D6A8 1BOLD c ALPHA;3BETA;3GAMMA;3DELTA;3EPSILON;3ZETA;3ETA;3THETA;3IOTA;3KAPPA;3LAMDA;3MU;3NU
  1D6B5 3XI;3OMICRON;3PI;3RHO;3THETA y;3SIGMA;3TAU;3UPSILON;3PHI;3CHI;3PSI;3OMEGA;2NABLA;2s ALPHA
  1D6C3 3BETA;3GAMMA;3DELTA;3EPSILON;3ZETA;3ETA;3THETA;3IOTA;3KAPPA;3LAMDA;3MU;3NU;3XI;3OMICRON
  1D6D1 3PI;3RHO;3n SIGMA;3SIGMA;3TAU;3UPSILON;3PHI;3CHI;3PSI;3OMEGA;2PARTIAL DIFFERENTIAL
  1D6DC 2EPSILON y;2THETA y;2KAPPA y;2PHI y;2RHO y;2PI y;1ITALIC c ALPHA;3BETA;3GAMMA;3DELTA
  1D6E6 3EPSILON;3ZETA;3ETA;3THETA;3IOTA;3KAPPA;3LAMDA;3MU;3NU;3XI;3OMICRON;3PI;3RHO;3THETA y
  1D6F4 3SIGMA;3TAU;3UPSILON;3PHI;3CHI;3PSI;3OMEGA;2NABLA;2s ALPHA;3BETA;3GAMMA;3DELTA;3EPSILON
  1D701 3ZETA;3ETA;3THETA;3IOTA;3KAPPA;3LAMDA;3MU;3NU;3XI;3OMICRON;3PI;3RHO;3n SIGMA;3SIGMA;3TAU
  1D710 3UPSILON;3PHI;3CHI;3PSI;3OMEGA;2PARTIAL DIFFERENTIAL;2EPSILON y;2THETA y;2KAPPA y;2PHI y
  1D71A 2RHO y;2PI y;1BOLD ITALIC c ALPHA;4BETA;4GAMMA;4DELTA;4EPSILON;4ZETA;4ETA;4THETA;4IOTA
  1D725 4KAPPA;4LAMDA;4MU;4NU;4XI;4OMICRON;4PI;4RHO;4THETA y;4SIGMA;4TAU;4UPSILON;4PHI;4CHI;4PSI
  1D734 4OMEGA;3NABLA;3s ALPHA;4BETA;4GAMMA;4DELTA;4EPSILON;4ZETA;4ETA;4THETA;4IOTA;4KAPPA;4LAMDA
  1D741 4MU;4NU;4XI;4OMICRON;4PI;4RHO;4n SIGMA;4SIGMA;4TAU;4UPSILON;4PHI;4CHI;4PSI;4OMEGA
  1D74F 3PARTIAL DIFFERENTIAL;3EPSILON y;3THETA y;3KAPPA y;3PHI y;3RHO y;3PI y
  1D756 1SANS-SERIF BOLD c ALPHA;4BETA;4GAMMA;4DELTA;4EPSILON;4ZETA;4ETA;4THETA;4IOTA;4KAPPA
  1D760 4LAMDA;4MU;4NU;4XI;4OMICRON;4PI;4RHO;4THETA y;4SIGMA;4TAU;4UPSILON;4PHI;4CHI;4PSI;4OMEGA
  1D76F 3NABLA;3s ALPHA;4BETA;4GAMMA;4DELTA;4EPSILON;4ZETA;4ETA;4THETA;4IOTA;4KAPPA;4LAMDA;4MU;4NU
  1D77D 4XI;4OMICRON;4PI;4RHO;4n SIGMA;4SIGMA;4TAU;4UPSILON;4PHI;4CHI;4PSI;4OMEGA
  1D789 3PARTIAL DIFFERENTIAL;3EPSILON y;3THETA y;3KAPPA y;3PHI y;3RHO y;3PI y;3ITALIC c ALPHA
  1D791 5BETA;5GAMMA;5DELTA;5EPSILON;5ZETA;5ETA;5THETA;5IOTA;5KAPPA;5LAMDA;5MU;5NU;5XI;5OMICRON
  1D79F 5PI;5RHO;5THETA y;5SIGMA;5TAU;5UPSILON;5PHI;5CHI;5PSI;5OMEGA;4NABLA;4s ALPHA;5BETA;5GAMMA
  1D7AD 5DELTA;5EPSILON;5ZETA;5ETA;5THETA;5IOTA;5KAPPA;5LAMDA;5MU;5NU;5XI;5OMICRON;5PI;5RHO
  1D7BB 5n SIGMA;5SIGMA;5TAU;5UPSILON;5PHI;5CHI;5PSI;5OMEGA;4PARTIAL DIFFERENTIAL;4EPSILON y
  1D7C5 4THETA y;4KAPPA y;4PHI y;4RHO y;4PI y;1BOLD c DIGAMMA;2s DIGAMMA
  1D7CE 2DIGIT ZERO;3ONE;3TWO;3m;3FOUR;3FIVE;3SIX;3SEVEN;3EIGHT;3NINE;1DOUBLE-STRUCK DIGIT ZERO
  1D7D9 3ONE;3TWO;3m;3FOUR;3FIVE;3SIX;3SEVEN;3EIGHT;3NINE;1SANS-SERIF DIGIT ZERO;3ONE;3TWO;3m
  1D7E6 3FOUR;3FIVE;3SIX;3SEVEN;3EIGHT;3NINE;2BOLD DIGIT ZERO;4ONE;4TWO;4m;4FOUR;4FIVE;4SIX;4SEVEN
  1D7F4 4EIGHT;4NINE;1MONOSPACE DIGIT ZERO;3ONE;3TWO;3m;3FOUR;3FIVE;3SIX;3SEVEN;3EIGHT;3NINE
  1D800 0SIGNWRITING HAND-FIST INDEX;1HAND-CIRCLE INDEX;1HAND-CUP INDEX;1HAND-OVAL INDEX
  1D804 1HAND-HINGE INDEX;1HAND-ANGLE INDEX;1HAND-FIST INDEX BENT;1HAND-CIRCLE INDEX BENT
  1D808 1HAND-FIST THUMB UNDER INDEX BENT;2INDEX RAISED KNUCKLE;3CUPPED;3HINGED;4LOW
  1D80D 1HAND-CIRCLE INDEX HINGE;1HAND-FIST INDEX MIDDLE;1HAND-CIRCLE INDEX MIDDLE
  1D810 1HAND-FIST INDEX MIDDLE BENT;4RAISED KNUCKLES;4HINGED;3UP MIDDLE HINGED;3HINGED MIDDLE UP
  1D815 3MIDDLE CONJOINED;5INDEX BENT;5MIDDLE BENT;5CUPPED;5HINGED;4CROSSED
  1D81B 1HAND-CIRCLE INDEX MIDDLE CROSSED;1HAND-FIST MIDDLE BENT OVER INDEX
  1D81D 2INDEX BENT OVER MIDDLE;3MIDDLE THUMB;1HAND-CIRCLE INDEX MIDDLE THUMB
  1D820 1HAND-FIST INDEX MIDDLE STRAIGHT THUMB BENT;4BENT THUMB STRAIGHT;4THUMB BENT
  1D823 4HINGED SPREAD THUMB SIDE;3UP MIDDLE HINGED THUMB SIDE;7CONJOINED
  1D826 3HINGED MIDDLE UP THUMB SIDE;3MIDDLE UP SPREAD THUMB FORWARD;4THUMB CUPPED;5CIRCLED
  1D82A 5HOOKED;5HINGED;2THUMB BETWEEN INDEX MIDDLE STRAIGHT;2INDEX MIDDLE CONJOINED THUMB SIDE
  1D82E 7CONJOINED;7BENT;2MIDDLE THUMB HOOKED INDEX UP;2INDEX THUMB HOOKED MIDDLE UP
  1D832 3MIDDLE CONJOINED HINGED THUMB SIDE;4CROSSED THUMB SIDE;4CONJOINED THUMB FORWARD
  1D835 5CUPPED THUMB FORWARD;2MIDDLE THUMB CUPPED INDEX UP;2INDEX THUMB CUPPED MIDDLE UP
  1D838 2MIDDLE THUMB CIRCLED INDEX UP;6HINGED;2INDEX THUMB ANGLED OUT MIDDLE UP;5IN MIDDLE UP
  1D83C 4CIRCLED MIDDLE UP;3MIDDLE THUMB CONJOINED HINGED;5ANGLED OUT;6
  1D840 2MIDDLE THUMB ANGLED OUT INDEX UP;7CROSSED;5INDEX UP;2INDEX THUMB HOOKED MIDDLE HINGED
  1D844 1HAND-FLAT FOUR FINGERS;4BENT;4HINGED;4CONJOINED;5SPLIT;1HAND-CLAW FOUR FINGERS CONJOINED
  1D84A 1HAND-FIST FOUR FINGERS CONJOINED BENT;1HAND-HINGE FOUR FINGERS CONJOINED
  1D84C 1HAND-FLAT FIVE FINGERS SPREAD;2HEEL FIVE FINGERS SPREAD;2FIVE FINGERS SPREAD FOUR BENT
  1D84F 2HEEL FIVE FINGERS SPREAD FOUR BENT;2FIVE FINGERS SPREAD BENT
  1D851 2HEEL FIVE FINGERS SPREAD BENT;2FIVE FINGERS SPREAD THUMB FORWARD
  1D853 1HAND-CUP FIVE FINGERS SPREAD;5OPEN;1HAND-HINGE FIVE FINGERS SPREAD OPEN
  1D856 1HAND-OVAL FIVE FINGERS SPREAD;1HAND-FLAT FIVE FINGERS SPREAD HINGED;6THUMB SIDE;6NO THUMB
  1D85A 2;2BETWEEN PALM FACINGS;2HEEL;2THUMB SIDE;2HEEL THUMB SIDE;2THUMB BENT;3FORWARD
  1D861 2SPLIT INDEX THUMB SIDE;3CENTRE;4THUMB SIDE;6BENT;3LITTLE;1HAND-CLAW;2THUMB SIDE;2NO THUMB
  1D869 2THUMB FORWARD;1HAND-HOOK CURLICUE;2;1HAND-CUP OPEN;2;2OPEN THUMB SIDE;2THUMB SIDE
  1D870 2OPEN NO THUMB;2NO THUMB;2OPEN THUMB FORWARD;2THUMB FORWARD;1HAND-CURLICUE OPEN;2
  1D876 1HAND-CIRCLE;1HAND-OVAL;2THUMB SIDE;2NO THUMB;2THUMB FORWARD;1HAND-HINGE OPEN
  1D87C 3THUMB FORWARD;2;2s;2OPEN THUMB SIDE;2THUMB SIDE;2OPEN NO THUMB;2NO THUMB
  1D883 2THUMB SIDE TOUCHING INDEX;3BETWEEN MIDDLE RING;1HAND-ANGLE;1HAND-FIST INDEX MIDDLE RING
  1D887 1HAND-CIRCLE INDEX MIDDLE RING;1HAND-HINGE INDEX MIDDLE RING;1HAND-ANGLE INDEX MIDDLE RING
  1D88A 1HAND-HINGE LITTLE;1HAND-FIST INDEX MIDDLE RING BENT;5CONJOINED
  1D88D 1HAND-HINGE INDEX MIDDLE RING CONJOINED;1HAND-FIST LITTLE DOWN;4RIPPLE STRAIGHT;5CURVED
  1D891 4OTHERS CIRCLED;3UP;2THUMB UNDER LITTLE UP;1HAND-CIRCLE LITTLE UP;1HAND-OVAL LITTLE UP
  1D896 1HAND-ANGLE LITTLE UP;1HAND-FIST LITTLE RAISED KNUCKLE;3BENT;3TOUCHES THUMB;3THUMB
  1D89B 1HAND-HINGE LITTLE THUMB;1HAND-FIST LITTLE INDEX THUMB;1HAND-HINGE LITTLE INDEX THUMB
  1D89E 1HAND-ANGLE LITTLE INDEX THUMB INDEX THUMB OUT;7;1HAND-FIST LITTLE INDEX
  1D8A1 1HAND-CIRCLE LITTLE INDEX;1HAND-HINGE LITTLE INDEX;1HAND-ANGLE LITTLE INDEX
  1D8A4 1HAND-FIST INDEX MIDDLE LITTLE;1HAND-CIRCLE INDEX MIDDLE LITTLE
  1D8A6 1HAND-HINGE INDEX MIDDLE LITTLE;2RING;1HAND-ANGLE INDEX MIDDLE LITTLE
  1D8A9 1HAND-FIST INDEX MIDDLE CROSS LITTLE;1HAND-CIRCLE INDEX MIDDLE CROSS LITTLE
  1D8AB 1HAND-FIST RING DOWN;1HAND-HINGE RING DOWN INDEX THUMB HOOK MIDDLE
  1D8AD 1HAND-ANGLE RING DOWN MIDDLE THUMB INDEX CROSS;1HAND-FIST RING UP;3RAISED KNUCKLE;3LITTLE
  1D8B1 1HAND-CIRCLE RING LITTLE;1HAND-OVAL RING LITTLE;1HAND-ANGLE RING LITTLE
  1D8B4 1HAND-FIST RING MIDDLE;4CONJOINED;4RAISED KNUCKLES;3INDEX;3THUMB;1HAND-HOOK RING THUMB
  1D8BA 1HAND-FIST INDEX RING LITTLE;1HAND-CIRCLE INDEX RING LITTLE
  1D8BC 1HAND-CURLICUE INDEX RING LITTLE ON;1HAND-HOOK INDEX RING LITTLE OUT;5IN;5UNDER
  1D8C0 1HAND-CUP INDEX RING LITTLE;1HAND-HINGE INDEX RING LITTLE
  1D8C2 1HAND-ANGLE INDEX RING LITTLE OUT;5;1HAND-FIST MIDDLE DOWN;1HAND-HINGE MIDDLE
  1D8C6 1HAND-FIST MIDDLE UP;1HAND-CIRCLE MIDDLE UP;1HAND-FIST MIDDLE RAISED KNUCKLE
  1D8C9 3UP THUMB SIDE;1HAND-HOOK MIDDLE THUMB;1HAND-FIST MIDDLE THUMB LITTLE;3LITTLE;3RING LITTLE
  1D8CE 1HAND-CIRCLE MIDDLE RING LITTLE;1HAND-CURLICUE MIDDLE RING LITTLE ON
  1D8D0 1HAND-CUP MIDDLE RING LITTLE;1HAND-HINGE MIDDLE RING LITTLE
  1D8D2 1HAND-ANGLE MIDDLE RING LITTLE OUT;5IN;5;1HAND-CIRCLE MIDDLE RING LITTLE BENT
  1D8D6 1HAND-CLAW MIDDLE RING LITTLE CONJOINED;6SIDE;1HAND-HOOK MIDDLE RING LITTLE CONJOINED OUT
  1D8D9 6IN;6;1HAND-HINGE INDEX HINGED;1HAND-FIST INDEX THUMB SIDE;1HAND-HINGE INDEX THUMB SIDE
  1D8DE 1HAND-FIST INDEX THUMB SIDE THUMB DIAGONAL;6CONJOINED;6BENT;5INDEX BENT;5BOTH BENT
  1D8E3 5INDEX HINGE;4FORWARD INDEX STRAIGHT;6BENT;4HOOK;4CURLICUE;4CURVE THUMB INSIDE
  1D8E9 1HAND-CLAW INDEX THUMB CURVE THUMB INSIDE;1HAND-FIST INDEX THUMB CURVE THUMB UNDER;4CIRCLE
  1D8EC 1HAND-CUP INDEX THUMB;4OPEN;1HAND-HINGE INDEX THUMB OPEN;4LARGE;4;4s
  1D8F2 1HAND-ANGLE INDEX THUMB OUT;4IN;4;1HAND-FIST THUMB;3HEEL;3SIDE DIAGONAL;4CONJOINED;4BENT
  1D8FA 3FORWARD;3BETWEEN INDEX MIDDLE;4MIDDLE RING;4RING LITTLE;3UNDER TWO FINGERS
  1D8FF 3OVER TWO FINGERS;3UNDER m FINGERS;4FOUR FINGERS;3OVER FOUR RAISED KNUCKLES;2;2HEEL
  1D905 1TOUCH SINGLE;2MULTIPLE;2BETWEEN;1GRASP SINGLE;2MULTIPLE;2BETWEEN;1STRIKE SINGLE;2MULTIPLE
  1D90D 2BETWEEN;1BRUSH SINGLE;2MULTIPLE;2BETWEEN;1RUB SINGLE;2MULTIPLE;2BETWEEN;1SURFACE SYMBOLS
  1D915 2BETWEEN;1SQUEEZE LARGE SINGLE;2s SINGLE;2LARGE MULTIPLE;2s MULTIPLE;2SEQUENTIAL
  1D91B 1FLICK LARGE SINGLE;2s SINGLE;2LARGE MULTIPLE;2s MULTIPLE;2SEQUENTIAL
  1D920 1SQUEEZE FLICK ALTERNATING;1MOVEMENT-HINGE UP DOWN LARGE;4s;3SEQUENTIAL;2DOWN SEQUENTIAL
  1D925 2UP DOWN ALTERNATING LARGE;5s;2SIDE TO SIDE SCISSORS;1MOVEMENT-WALLPLANE FINGER CONTACT
  1D929 1MOVEMENT-FLOORPLANE FINGER CONTACT;1MOVEMENT-WALLPLANE SINGLE STRAIGHT s;4MEDIUM;4LARGE
  1D92D 4LARGEST;3WRIST FLEX;2d STRAIGHT;3WRIST FLEX;3ALTERNATING;4WRIST FLEX;2CROSS
  1D934 2TRIPLE STRAIGHT MOVEMENT;3WRIST FLEX;3ALTERNATING;4WRIST FLEX;2BEND s;3MEDIUM;3LARGE
  1D93B 2CORNER s;3MEDIUM;3LARGE;3ROTATION;2CHECK s;3MEDIUM;3LARGE;2BOX s;3MEDIUM;3LARGE;2ZIGZAG s
  1D946 3MEDIUM;3LARGE;2PEAKS s;3MEDIUM;3LARGE;1TRAVEL-WALLPLANE ROTATION-WALLPLANE SINGLE;3d
  1D94D 3ALTERNATING;2ROTATION-FLOORPLANE SINGLE;3d;3ALTERNATING;2SHAKING;2ARM SPIRAL SINGLE;4d
  1D954 4TRIPLE;1MOVEMENT-DIAGONAL AWAY s;3MEDIUM;3LARGE;3LARGEST;2TOWARDS s;3MEDIUM;3LARGE
  1D95C 3LARGEST;2BETWEEN AWAY s;4MEDIUM;4LARGE;4LARGEST;3TOWARDS s;4MEDIUM;4LARGE;4LARGEST
  1D965 1MOVEMENT-FLOORPLANE SINGLE STRAIGHT s;4MEDIUM;4LARGE;4LARGEST;3WRIST FLEX;2d STRAIGHT
  1D96B 3WRIST FLEX;3ALTERNATING;4WRIST FLEX;2CROSS;2TRIPLE STRAIGHT MOVEMENT;3WRIST FLEX
  1D971 3ALTERNATING MOVEMENT;4WRIST FLEX;2BEND;2CORNER s;3MEDIUM;3LARGE;2CHECK;2BOX s;3MEDIUM
  1D97A 3LARGE;2ZIGZAG s;3MEDIUM;3LARGE;2PEAKS s;3MEDIUM;3LARGE
  1D981 1TRAVEL-FLOORPLANE ROTATION-FLOORPLANE SINGLE;3d;3ALTERNATING;2ROTATION-WALLPLANE SINGLE
  1D985 3d;3ALTERNATING;2SHAKING;1MOVEMENT-WALLPLANE CURVE QUARTER s;4MEDIUM;4LARGE;4LARGEST
  1D98C 3HALF-CIRCLE s;4MEDIUM;4LARGE;4LARGEST;3THREE-QUARTER CIRCLE s;5MEDIUM;2HUMP s;3MEDIUM
  1D994 3LARGE;2LOOP s;3MEDIUM;3LARGE;3s d;2WAVE CURVE d s;5MEDIUM;5LARGE;4TRIPLE s;5MEDIUM;5LARGE
  1D99F 2CURVE THEN STRAIGHT;2CURVED CROSS s;4MEDIUM;1ROTATION-WALLPLANE SINGLE;2d;2ALTERNATE
  1D9A5 1MOVEMENT-WALLPLANE SHAKING;2CURVE HITTING FRONT WALL;2HUMP HITTING FRONT WALL
  1D9A8 2LOOP HITTING FRONT WALL;2WAVE HITTING FRONT WALL
  1D9AA 1ROTATION-WALLPLANE SINGLE HITTING FRONT WALL;2d HITTING FRONT WALL
  1D9AC 2ALTERNATING HITTING FRONT WALL;1MOVEMENT-WALLPLANE CURVE HITTING CHEST
  1D9AE 2HUMP HITTING CHEST;2LOOP HITTING CHEST;2WAVE HITTING CHEST
  1D9B1 1ROTATION-WALLPLANE SINGLE HITTING CHEST;2d HITTING CHEST;2ALTERNATING HITTING CHEST
  1D9B4 1MOVEMENT-WALLPLANE WAVE DIAGONAL PATH s;5MEDIUM;5LARGE
  1D9B7 1MOVEMENT-FLOORPLANE CURVE HITTING CEILING s;5LARGE;2HUMP HITTING CEILING s d;5LARGE d
  1D9BB 5s TRIPLE;5LARGE TRIPLE;2LOOP HITTING CEILING s SINGLE;5LARGE SINGLE;5s d;5LARGE d
  1D9C1 2WAVE HITTING CEILING s;5LARGE;1ROTATION-FLOORPLANE SINGLE HITTING CEILING
  1D9C4 2d HITTING CEILING;2ALTERNATING HITTING CEILING;1MOVEMENT-FLOORPLANE CURVE HITTING FLOOR s
  1D9C7 5LARGE;2HUMP HITTING FLOOR s d;5LARGE d;5TRIPLE s TRIPLE;6LARGE TRIPLE
  1D9CC 2LOOP HITTING FLOOR s SINGLE;5LARGE SINGLE;5s d;5LARGE d;2WAVE HITTING FLOOR s;5LARGE
  1D9D2 1ROTATION-FLOORPLANE SINGLE HITTING FLOOR;2d HITTING FLOOR;2ALTERNATING HITTING FLOOR
  1D9D5 1MOVEMENT-FLOORPLANE CURVE s;3MEDIUM;3LARGE;3LARGEST;3COMBINED;2HUMP s;2LOOP s;2WAVE SNAKE
  1D9DD 3s;3LARGE;1ROTATION-FLOORPLANE SINGLE;2d;2ALTERNATING
  1D9E2 1MOVEMENT-FLOORPLANE SHAKING PARALLEL;1MOVEMENT-WALLPLANE ARM CIRCLE s SINGLE
  1D9E4 4MEDIUM SINGLE;4s d;4MEDIUM d;1MOVEMENT-FLOORPLANE ARM CIRCLE HITTING WALL s SINGLE
  1D9E8 6MEDIUM SINGLE;6LARGE SINGLE;6s d;6MEDIUM d;6LARGE d
  1D9ED 1MOVEMENT-WALLPLANE WRIST CIRCLE FRONT SINGLE;5d
  1D9EF 1MOVEMENT-FLOORPLANE WRIST CIRCLE HITTING WALL SINGLE;6d
  1D9F1 1MOVEMENT-WALLPLANE FINGER CIRCLES SINGLE;4d
  1D9F3 1MOVEMENT-FLOORPLANE FINGER CIRCLES HITTING WALL SINGLE;6d;1DYNAMIC ARROWHEAD s;3LARGE
  1D9F7 2FAST;2SLOW;2TENSE;2RELAXED;2SIMULTANEOUS;3ALTERNATING;2EVERY OTHER TIME;2GRADUAL;1HEAD
  1DA00 2RIM;2MOVEMENT-WALLPLANE STRAIGHT;3TILT;2MOVEMENT-FLOORPLANE STRAIGHT
  1DA04 2MOVEMENT-WALLPLANE CURVE;2MOVEMENT-FLOORPLANE CURVE;2MOVEMENT CIRCLE
  1DA07 1FACE DIRECTION POSITION NOSE FORWARD TILTING;5UP OR DOWN;8TILTING;1EYEBROWS STRAIGHT UP
  1DA0B 3NEUTRAL;3DOWN;1DREAMY EYEBROWS NEUTRAL DOWN;3DOWN NEUTRAL;3UP NEUTRAL;3NEUTRAL UP
  1DA11 1FOREHEAD NEUTRAL;2CONTACT;2WRINKLED;1EYES OPEN;2SQUEEZED;2CLOSED;1EYE BLINK SINGLE
  1DA18 3MULTIPLE;1EYES HALF OPEN;2WIDE OPEN;2HALF CLOSED;2WIDENING MOVEMENT;1EYE WINK
  1DA1E 1EYELASHES UP;2DOWN;2FLUTTERING;1EYEGAZE-WALLPLANE STRAIGHT;3d;3ALTERNATING
  1DA24 1EYEGAZE-FLOORPLANE STRAIGHT;3d;3ALTERNATING;1EYEGAZE-WALLPLANE CURVED
  1DA28 1EYEGAZE-FLOORPLANE CURVED;1EYEGAZE-WALLPLANE CIRCLING;1CHEEKS PUFFED;2NEUTRAL;2SUCKED
  1DA2D 1TENSE CHEEKS HIGH;3MIDDLE;3LOW;1EARS;1NOSE NEUTRAL;2CONTACT;2WRINKLES;2WIGGLES
  1DA35 1AIR BLOWING OUT;2SUCKING IN;2BLOW s ROTATIONS;2SUCK s ROTATIONS;1BREATH INHALE;2EXHALE
  1DA3B 1MOUTH CLOSED NEUTRAL;3FORWARD;3CONTACT;2SMILE;3WRINKLED;3OPEN;2FROWN;3WRINKLED;3OPEN
  1DA44 2OPEN CIRCLE;3FORWARD;3WRINKLED;3OVAL;4WRINKLED;4YAWN;3RECTANGLE;4WRINKLED;4YAWN;2KISS
  1DA4E 3FORWARD;3WRINKLED;2TENSE;3FORWARD;3SUCKED;1LIPS PRESSED TOGETHER;1LIP LOWER OVER UPPER
  1DA55 2UPPER OVER LOWER;1MOUTH CORNERS;2WRINKLES SINGLE;3d;1TONGUE STICKING OUT FAR
  1DA5A 2LICKING LIPS;2TIP BETWEEN LIPS;3TOUCHING INSIDE MOUTH;2INSIDE MOUTH RELAXED
  1DA5E 2MOVES AGAINST CHEEK;2CENTRE STICKING OUT;3INSIDE MOUTH;1TEETH;2MOVEMENT;2ON TONGUE
  1DA64 4MOVEMENT;3LIPS;4MOVEMENT;2BITE LIPS;1MOVEMENT-WALLPLANE JAW;1MOVEMENT-FLOORPLANE JAW
  1DA6A 1NECK;1HAIR;1EXCITEMENT;1SHOULDER HIP SPINE;3POSITIONS;1WALLPLANE SHOULDER HIP MOVE
  1DA70 1FLOORPLANE SHOULDER HIP MOVE;1SHOULDER TILTING FROM WAIST
  1DA72 1TORSO-WALLPLANE STRAIGHT STRETCH;2CURVED BEND;1TORSO-FLOORPLANE TWISTING
  1DA75 1UPPER BODY TILTING FROM HIP JOINTS;1LIMB COMBINATION;2LENGTH-1;2LENGTH-2;2LENGTH-3
  1DA7A 2LENGTH-4;2LENGTH-5;2LENGTH-6;2LENGTH-7;1FINGER;1LOCATION-WALLPLANE SPACE
  1DA80 1LOCATION-FLOORPLANE SPACE;1LOCATION HEIGHT;2WIDTH;2DEPTH;2HEAD NECK;2TORSO;2LIMBS DIGITS
  1DA87 1COMMA;1FULL STOP;1SEMICOLON;1COLON;1PARENTHESIS
  1DA9B 1FILL MODIFIER-2;2MODIFIER-3;2MODIFIER-4;2MODIFIER-5;2MODIFIER-6
  1DAA1 1ROTATION MODIFIER-2;2MODIFIER-3;2MODIFIER-4;2MODIFIER-5;2MODIFIER-6;2MODIFIER-7
  1DAA7 2MODIFIER-8;2MODIFIER-9;2MODIFIER-10;2MODIFIER-11;2MODIFIER-12;2MODIFIER-13;2MODIFIER-14
  1DAAE 2MODIFIER-15;2MODIFIER-16
  1DF00 0LATIN s l FENG DIGRAPH w TRILL;3REVERSED SCRIPT G;1l s c TURNED G;1s l REVERSED K
  1DF04 1l s c L w BELT;1s l LEZH w RETROFLEX HOOK;3TURNED Y w BELT;3REVERSED ENG
  1DF08 3TURNED R w LONG LEG h RETROFLEX HOOK;3T w HOOK h RETROFLEX HOOK
  1DF0A 1l RETROFLEX CLICK w RETROFLEX HOOK;1s l ESH w d BAR;7h CURL;3TURNED T w CURL
  1DF0E 1l INVERTED GLOTTAL STOP w CURL;2STRETCHED C w CURL;2s c TURNED K;1s l L w FISHHOOK
  1DF12 3DEZH DIGRAPH w PALATAL HOOK;3L w BELT h PALATAL HOOK;3ENG w PALATAL HOOK
  1DF15 3TURNED R w PALATAL HOOK;3R w FISHHOOK h PALATAL HOOK;3TESH DIGRAPH w PALATAL HOOK
  1DF18 3EZH w PALATAL HOOK;3DEZH DIGRAPH w RETROFLEX HOOK;3I w q h RETROFLEX HOOK
  1DF1B 3O w RETROFLEX HOOK;3TESH DIGRAPH w RETROFLEX HOOK;3C w RETROFLEX HOOK;3S w CURL
  1E000 0COMBINING GLAGOLITIC l AZU;3BUKY;3VEDE;3GLAGOLI;3DOBRO;3YESTU;3ZHIVETE
  1E008 3ZEMLJA;3IZHE;3k IZHE;3I;3DJERVI;3KAKO;3LJUDIJE;3MYSLITE;3NASHI;3ONU;3POKOJI;3RITSI;3SLOVO
  1E015 3TVRIDO;3UKU;3FRITU;3HERU
  1E01B 3SHTA;3TSI;3CHRIVI;3SHA;3YERU;3YERI;3YATI
  1E023 3YU;3s YUS
  1E026 3YO;3IOTATED s YUS;3BIG YUS;3IOTATED BIG YUS;3FITA
  1E100 0NYIAKENG PUACHUE HMONG l MA;4TSA;4NTA;4TA;4HA;4NA;4XA;4NKA;4CA;4LA;4SA;4ZA;4NCA;4NTSA;4KA
  1E10F 4DA;4NYA;4NRA;4VA;4NTXA;4TXA;4FA;4RA;4QA;4YA;4NQA;4PA;4XYA;4NPA;4DLA;4NPLA;4HAH;4MLA;4PLA
  1E122 4GA;4RRA;4A;4AA;4I;4U;4O;4OO;4E;4EE;4W
  1E130 3TONE-B;3TONE-M;3TONE-J;3TONE-V;3TONE-S;3TONE-G;3TONE-D;3i FOR PERSON;5THING;5LOCATION
  1E13A 5ANIMAL;5INVERTEBRATE;4XW XW;3SYLLABLE LENGTHENER
  1E140 3DIGIT ZERO;4ONE;4TWO;4m;4FOUR;4FIVE;4SIX;4SEVEN;4EIGHT;4NINE
  1E14E 3LOGOGRAM NYAJ;3CIRCLED CA
  1E290 0TOTO l PA;2BA;2TA;2DA;2KA;2GA;2MA;2NA;2NGA;2SA;2CHA;2YA;2WA;2JA;2HA;2RA;2LA;2I;2BREATHY I
  1E2A3 2IU;2BREATHY IU;2U;2E;2BREATHY E;2EO;2BREATHY EO;2O;2AE;2BREATHY AE;2A;1i RISING TONE
  1E2C0 0WANCHO l AA;2A;2BA;2CA;2DA;2GA;2YA;2PHA;2LA;2NA;2PA;2TA;2THA;2FA;2SA;2SHA;2JA;2ZA;2WA;2VA
  1E2D4 2KA;2O;2AU;2RA;2MA;2KHA;2HA;2E;2I;2NGA;2U;2LLHA;2TSA;2TRA;2ONG;2AANG;2ANG;2ING;2ON;2EN
  1E2E8 2AAN;2NYA;2UEN;2YIH;1TONE TUP;2TUPNI;2KOI;2KOINI;1DIGIT ZERO;2ONE;2TWO;2m;2FOUR;2FIVE;2SIX
  1E2F7 2SEVEN;2EIGHT;2NINE
  1E2FF 1NGUN i
  1E7E0 0ETHIOPIC SYLLABLE HHYA;2HHYU;2HHYI;2HHYAA;2HHYEE;2HHYE;2HHYO
  1E7E8 2GURAGE HHWA;2HHWI;2HHWEE;2HHWE
  1E7ED 2GURAGE MWI;3MWEE
  1E7F0 3QWI;3QWEE;3QWE;3BWI;3BWEE;3KWI;3KWEE;3KWE;3GWI;3GWEE;3GWE;3FWI;3FWEE;3PWI;3PWEE
  1E800 0MENDE KIKAKUI SYLLABLE M001 KI;3M002 KA;3M003 KU;3M065 KEE;3M095 KE;3M076 KOO;3M048 KO
  1E807 3M179 KUA;3M004 WI;3M005 WA;3M006 WU;3M126 WEE;3M118 WE;3M114 WOO;3M045 WO;3M194 WUI
  1E810 3M143 WEI;3M061 WVI;3M049 WVA;3M139 WVE;3M007 MIN;3M008 MAN;3M009 MUN;3M059 MEN;3M094 MON
  1E819 3M154 MUAN;3M189 MUEN;3M010 BI;3M011 BA;3M012 BU;3M150 BEE;3M097 BE;3M103 BOO;3M138 BO
  1E822 3M013 I;3M014 A;3M015 U;3M163 EE;3M100 E;3M165 OO;3M147 O;3M137 EI;3M131 IN;3M135 IN
  1E82C 3M195 AN;3M178 EN;3M019 SI;3M020 SA;3M021 SU;3M162 SEE;3M116 SE;3M136 SOO;3M079 SO
  1E835 3M196 SIA;3M025 LI;3M026 LA;3M027 LU;3M084 LEE;3M073 LE;3M054 LOO;3M153 LO;3M110 LONG LE
  1E83E 3M016 DI;3M017 DA;3M018 DU;3M089 DEE;3M180 DOO;3M181 DO;3M022 TI;3M023 TA;3M024 TU
  1E847 3M091 TEE;3M055 TE;3M104 TOO;3M069 TO;3M028 JI;3M029 JA;3M030 JU;3M157 JEE;3M113 JE
  1E850 3M160 JOO;3M063 JO;3M175 LONG JO;3M031 YI;3M032 YA;3M033 YU;3M109 YEE;3M080 YE;3M141 YOO
  1E859 3M121 YO;3M034 FI;3M035 FA;3M036 FU;3M078 FEE;3M075 FE;3M133 FOO;3M088 FO;3M197 FUA
  1E862 3M101 FAN;3M037 NIN;3M038 NAN;3M039 NUN;3M117 NEN;3M169 NON;3M176 HI;3M041 HA;3M186 HU
  1E86B 3M040 HEE;3M096 HE;3M042 HOO;3M140 HO;3M083 HEEI;3M128 HOOU;3M053 HIN;3M130 HAN;3M087 HUN
  1E874 3M052 HEN;3M193 HON;3M046 HUAN;3M090 NGGI;3M043 NGGA;3M082 NGGU;3M115 NGGEE;3M146 NGGE
  1E87C 3M156 NGGOO;3M120 NGGO;3M159 NGGAA;3M127 NGGUA;3M086 LONG NGGE;3M106 LONG NGGOO
  1E882 3M183 LONG NGGO;3M155 GI;3M111 GA;3M168 GU;3M190 GEE;3M166 GUEI;3M167 GUAN;3M184 NGEN
  1E88A 3M057 NGON;3M177 NGUAN;3M068 PI;3M099 PA;3M050 PU;3M081 PEE;3M051 PE;3M102 POO;3M066 PO
  1E893 3M145 MBI;3M062 MBA;3M122 MBU;3M047 MBEE;3M188 MBEE;3M072 MBE;3M172 MBOO;3M174 MBO
  1E89B 3M187 MBUU;3M161 LONG MBE;3M105 LONG MBOO;3M142 LONG MBO;3M132 KPI;3M092 KPA;3M074 KPU
  1E8A2 3M044 KPEE;3M108 KPE;3M112 KPOO;3M158 KPO;3M124 GBI;3M056 GBA;3M148 GBU;3M093 GBEE
  1E8AA 3M107 GBE;3M071 GBOO;3M070 GBO;3M171 RA;3M123 NDI;3M129 NDA;3M125 NDU;3M191 NDEE;3M119 NDE
  1E8B3 3M067 NDOO;3M064 NDO;3M152 NJA;3M192 NJU;3M149 NJEE;3M134 NJOO;3M182 VI;3M185 VA;3M151 VU
  1E8BC 3M173 VEE;3M085 VE;3M144 VOO;3M077 VO;3M164 NYIN;3M058 NYAN;3M170 NYUN;3M098 NYEN
  1E8C4 3M060 NYON
  1E8C7 2DIGIT ONE;3TWO;3m;3FOUR;3FIVE;3SIX;3SEVEN;3EIGHT;3NINE;2COMBINING NUMBER TEENS;4TENS
  1E8D2 4HUNDREDS;4THOUSANDS;4TEN THOUSANDS;4HUNDRED THOUSANDS;4MILLIONS
  1E900 0ADLAM c l ALIF;3DAALI;3LAAM;3MIIM;3BA;3SINNYIIYHE;3PE;3BHE;3RA;3E;3FA;3I;3O;3DHA;3YHE
  1E90F 3WAW;3NUN;3KAF;3YA;3U;3JIIM;3CHI;3HA;3QAAF;3GA;3NYA;3TU;3NHA;3VA;3KHA;3GBE;3ZAL;3KPO;3SHA
  1E922 1s l ALIF;3DAALI;3LAAM;3MIIM;3BA;3SINNYIIYHE;3PE;3BHE;3RA;3E;3FA;3I;3O;3DHA;3YHE;3WAW;3NUN
  1E933 3KAF;3YA;3U;3JIIM;3CHI;3HA;3QAAF;3GA;3NYA;3TU;3NHA;3VA;3KHA;3GBE;3ZAL;3KPO;3SHA
  1E944 1ALIF LENGTHENER;1VOWEL LENGTHENER;1GEMINATION MARK;1HAMZA;1CONSONANT MODIFIER
  1E949 1GEMINATE CONSONANT MODIFIER;1NUKTA;1NASALIZATION MARK
  1E950 1DIGIT ZERO;2ONE;2TWO;2m;2FOUR;2FIVE;2SIX;2SEVEN;2EIGHT;2NINE
  1E95E 1k EXCLAMATION MARK;2QUESTION MARK
  1EC71 0INDIC SIYAQ NUMBER ONE;3TWO;3m;3FOUR;3FIVE;3SIX;3SEVEN;3EIGHT;3NINE;3TEN;3TWENTY;3THIRTY
  1EC7D 3FORTY;3FIFTY;3SIXTY;3SEVENTY;3EIGHTY;3NINETY;3ONE HUNDRED;3TWO HUNDRED;3m HUNDRED
  1EC86 3FOUR HUNDRED;3FIVE HUNDRED;3SIX HUNDRED;3SEVEN HUNDRED;3EIGHT HUNDRED;3NINE HUNDRED
  1EC8C 3ONE THOUSAND;3TWO THOUSAND;3m THOUSAND;3FOUR THOUSAND;3FIVE THOUSAND;3SIX THOUSAND
  1EC92 3SEVEN THOUSAND;3EIGHT THOUSAND;3NINE THOUSAND;3TEN THOUSAND;3TWENTY THOUSAND
  1EC97 3THIRTY THOUSAND;3FORTY THOUSAND;3FIFTY THOUSAND;3SIXTY THOUSAND;3SEVENTY THOUSAND
  1EC9C 3EIGHTY THOUSAND;3NINETY THOUSAND;3LAKH;3LAKHAN;2LAKH MARK;2NUMBER KAROR;3KARORAN
  1ECA3 3PREFIXED ONE;4TWO;4m;4FOUR;4FIVE;4SIX;4SEVEN;4EIGHT;4NINE;2PLACEHOLDER
  1ECAD 2FRACTION ONE QUARTER;4HALF;3m QUARTERS;2RUPEE MARK;2NUMBER ALTERNATE ONE;4TWO
  1ECB3 4TEN THOUSAND;2ALTERNATE LAKH MARK
  1ED01 0OTTOMAN SIYAQ NUMBER ONE;3TWO;3m;3FOUR;3FIVE;3SIX;3SEVEN;3EIGHT;3NINE;3TEN;3TWENTY
  1ED0C 3THIRTY;3FORTY;3FIFTY;3SIXTY;3SEVENTY;3EIGHTY;3NINETY;3ONE HUNDRED;3TWO HUNDRED;3m HUNDRED
  1ED16 3FOUR HUNDRED;3FIVE HUNDRED;3SIX HUNDRED;3SEVEN HUNDRED;3EIGHT HUNDRED;3NINE HUNDRED
  1ED1C 3ONE THOUSAND;3TWO THOUSAND;3m THOUSAND;3FOUR THOUSAND;3FIVE THOUSAND;3SIX THOUSAND
  1ED22 3SEVEN THOUSAND;3EIGHT THOUSAND;3NINE THOUSAND;3TEN THOUSAND;3TWENTY THOUSAND
  1ED27 3THIRTY THOUSAND;3FORTY THOUSAND;3FIFTY THOUSAND;3SIXTY THOUSAND;3SEVENTY THOUSAND
  1ED2C 3EIGHTY THOUSAND;3NINETY THOUSAND;2MARRATAN;2ALTERNATE NUMBER TWO;4m;4FOUR;4FIVE;4SIX
  1ED34 4SEVEN;4EIGHT;4NINE;4TEN;4FOUR HUNDRED;4SIX HUNDRED;4TWO THOUSAND;4TEN THOUSAND
  1ED3C 2FRACTION ONE HALF;4SIXTH
  1EE00 0ARABIC MATHEMATICAL ALEF;2BEH;2JEEM;2DAL
  1EE05 2WAW;2ZAIN;2HAH;2TAH;2YEH;2KAF;2LAM;2MEEM;2NOON;2SEEN;2AIN;2FEH;2SAD;2QAF;2REH;2SHEEN;2TEH
  1EE16 2THEH;2KHAH;2THAL;2DAD;2ZAH;2GHAIN;2DOTLESS BEH;3NOON;3FEH;3QAF
  1EE21 2k BEH;3JEEM
  1EE24 3HEH
  1EE27 3HAH
  1EE29 3YEH;3KAF;3LAM;3MEEM;3NOON;3SEEN;3AIN;3FEH;3SAD;3QAF
  1EE34 3SHEEN;3TEH;3THEH;3KHAH
  1EE39 3DAD
  1EE3B 3GHAIN
  1EE42 2TAILED JEEM
  1EE47 3HAH
  1EE49 3YEH
  1EE4B 3LAM
  1EE4D 3NOON;3SEEN;3AIN
  1EE51 3SAD;3QAF
  1EE54 3SHEEN
  1EE57 3KHAH
  1EE59 3DAD
  1EE5B 3GHAIN
  1EE5D 3DOTLESS NOON
  1EE5F 4QAF
  1EE61 2STRETCHED BEH;3JEEM
  1EE64 3HEH
  1EE67 3HAH;3TAH;3YEH;3KAF
  1EE6C 3MEEM;3NOON;3SEEN;3AIN;3FEH;3SAD;3QAF
  1EE74 3SHEEN;3TEH;3THEH;3KHAH
  1EE79 3DAD;3ZAH;3GHAIN;3DOTLESS BEH
  1EE7E 4FEH
  1EE80 2LOOPED ALEF;3BEH;3JEEM;3DAL;3HEH;3WAW;3ZAIN;3HAH;3TAH;3YEH
  1EE8B 3LAM;3MEEM;3NOON;3SEEN;3AIN;3FEH;3SAD;3QAF;3REH;3SHEEN;3TEH;3THEH;3KHAH;3THAL;3DAD;3ZAH
  1EE9B 3GHAIN
  1EEA1 2DOUBLE-STRUCK BEH;3JEEM;3DAL
  1EEA5 3WAW;3ZAIN;3HAH;3TAH;3YEH
  1EEAB 3LAM;3MEEM;3NOON;3SEEN;3AIN;3FEH;3SAD;3QAF;3REH;3SHEEN;3TEH;3THEH;3KHAH;3THAL;3DAD;3ZAH
  1EEBB 3GHAIN
  1EEF0 2OPERATOR MEEM w HAH w TATWEEL;3HAH w DAL
  1F000 0MAHJONG TILE EAST WIND;2SOUTH WIND;2WEST WIND;2NORTH WIND;2RED DRAGON;2GREEN DRAGON
  1F006 2x DRAGON;2ONE OF CHARACTERS;2TWO OF CHARACTERS;2m OF CHARACTERS;2FOUR OF CHARACTERS
  1F00B 2FIVE OF CHARACTERS;2SIX OF CHARACTERS;2SEVEN OF CHARACTERS;2EIGHT OF CHARACTERS
  1F00F 2NINE OF CHARACTERS;2ONE OF BAMBOOS;2TWO OF BAMBOOS;2m OF BAMBOOS;2FOUR OF BAMBOOS
  1F014 2FIVE OF BAMBOOS;2SIX OF BAMBOOS;2SEVEN OF BAMBOOS;2EIGHT OF BAMBOOS;2NINE OF BAMBOOS
  1F019 2ONE OF CIRCLES;2TWO OF CIRCLES;2m OF CIRCLES;2FOUR OF CIRCLES;2FIVE OF CIRCLES
  1F01E 2SIX OF CIRCLES;2SEVEN OF CIRCLES;2EIGHT OF CIRCLES;2NINE OF CIRCLES;2PLUM;2ORCHID;2BAMBOO
  1F025 2CHRYSANTHEMUM;2SPRING;2SUMMER;2AUTUMN;2WINTER;2JOKER;2BACK
  1F030 0DOMINO TILE z BACK;2HORIZONTAL-00-00;2HORIZONTAL-00-01;2HORIZONTAL-00-02
  1F034 2HORIZONTAL-00-03;2HORIZONTAL-00-04;2HORIZONTAL-00-05;2HORIZONTAL-00-06;2HORIZONTAL-01-00
  1F039 2HORIZONTAL-01-01;2HORIZONTAL-01-02;2HORIZONTAL-01-03;2HORIZONTAL-01-04;2HORIZONTAL-01-05
  1F03E 2HORIZONTAL-01-06;2HORIZONTAL-02-00;2HORIZONTAL-02-01;2HORIZONTAL-02-02;2HORIZONTAL-02-03
  1F043 2HORIZONTAL-02-04;2HORIZONTAL-02-05;2HORIZONTAL-02-06;2HORIZONTAL-03-00;2HORIZONTAL-03-01
  1F048 2HORIZONTAL-03-02;2HORIZONTAL-03-03;2HORIZONTAL-03-04;2HORIZONTAL-03-05;2HORIZONTAL-03-06
  1F04D 2HORIZONTAL-04-00;2HORIZONTAL-04-01;2HORIZONTAL-04-02;2HORIZONTAL-04-03;2HORIZONTAL-04-04
  1F052 2HORIZONTAL-04-05;2HORIZONTAL-04-06;2HORIZONTAL-05-00;2HORIZONTAL-05-01;2HORIZONTAL-05-02
  1F057 2HORIZONTAL-05-03;2HORIZONTAL-05-04;2HORIZONTAL-05-05;2HORIZONTAL-05-06;2HORIZONTAL-06-00
  1F05C 2HORIZONTAL-06-01;2HORIZONTAL-06-02;2HORIZONTAL-06-03;2HORIZONTAL-06-04;2HORIZONTAL-06-05
  1F061 2HORIZONTAL-06-06;2v BACK;2VERTICAL-00-00;2VERTICAL-00-01;2VERTICAL-00-02;2VERTICAL-00-03
  1F067 2VERTICAL-00-04;2VERTICAL-00-05;2VERTICAL-00-06;2VERTICAL-01-00;2VERTICAL-01-01
  1F06C 2VERTICAL-01-02;2VERTICAL-01-03;2VERTICAL-01-04;2VERTICAL-01-05;2VERTICAL-01-06
  1F071 2VERTICAL-02-00;2VERTICAL-02-01;2VERTICAL-02-02;2VERTICAL-02-03;2VERTICAL-02-04
  1F076 2VERTICAL-02-05;2VERTICAL-02-06;2VERTICAL-03-00;2VERTICAL-03-01;2VERTICAL-03-02
  1F07B 2VERTICAL-03-03;2VERTICAL-03-04;2VERTICAL-03-05;2VERTICAL-03-06;2VERTICAL-04-00
  1F080 2VERTICAL-04-01;2VERTICAL-04-02;2VERTICAL-04-03;2VERTICAL-04-04;2VERTICAL-04-05
  1F085 2VERTICAL-04-06;2VERTICAL-05-00;2VERTICAL-05-01;2VERTICAL-05-02;2VERTICAL-05-03
  1F08A 2VERTICAL-05-04;2VERTICAL-05-05;2VERTICAL-05-06;2VERTICAL-06-00;2VERTICAL-06-01
  1F08F 2VERTICAL-06-02;2VERTICAL-06-03;2VERTICAL-06-04;2VERTICAL-06-05;2VERTICAL-06-06
  1F0A0 0PLAYING CARD BACK;2ACE OF SPADES;2TWO OF SPADES;2m OF SPADES;2FOUR OF SPADES
  1F0A5 2FIVE OF SPADES;2SIX OF SPADES;2SEVEN OF SPADES;2EIGHT OF SPADES;2NINE OF SPADES
  1F0AA 2TEN OF SPADES;2JACK OF SPADES;2KNIGHT OF SPADES;2QUEEN OF SPADES;2KING OF SPADES
  1F0B1 2ACE OF HEARTS;2TWO OF HEARTS;2m OF HEARTS;2FOUR OF HEARTS;2FIVE OF HEARTS;2SIX OF HEARTS
  1F0B7 2SEVEN OF HEARTS;2EIGHT OF HEARTS;2NINE OF HEARTS;2TEN OF HEARTS;2JACK OF HEARTS
  1F0BC 2KNIGHT OF HEARTS;2QUEEN OF HEARTS;2KING OF HEARTS;2RED JOKER
  1F0C1 2ACE OF DIAMONDS;2TWO OF DIAMONDS;2m OF DIAMONDS;2FOUR OF DIAMONDS;2FIVE OF DIAMONDS
  1F0C6 2SIX OF DIAMONDS;2SEVEN OF DIAMONDS;2EIGHT OF DIAMONDS;2NINE OF DIAMONDS;2TEN OF DIAMONDS
  1F0CB 2JACK OF DIAMONDS;2KNIGHT OF DIAMONDS;2QUEEN OF DIAMONDS;2KING OF DIAMONDS;2u JOKER
  1F0D1 2ACE OF CLUBS;2TWO OF CLUBS;2m OF CLUBS;2FOUR OF CLUBS;2FIVE OF CLUBS;2SIX OF CLUBS
  1F0D7 2SEVEN OF CLUBS;2EIGHT OF CLUBS;2NINE OF CLUBS;2TEN OF CLUBS;2JACK OF CLUBS
  1F0DC 2KNIGHT OF CLUBS;2QUEEN OF CLUBS;2KING OF CLUBS;2x JOKER;2FOOL;2TRUMP-1;2TRUMP-2;2TRUMP-3
  1F0E4 2TRUMP-4;2TRUMP-5;2TRUMP-6;2TRUMP-7;2TRUMP-8;2TRUMP-9;2TRUMP-10;2TRUMP-11;2TRUMP-12
  1F0ED 2TRUMP-13;2TRUMP-14;2TRUMP-15;2TRUMP-16;2TRUMP-17;2TRUMP-18;2TRUMP-19;2TRUMP-20;2TRUMP-21
  1F100 0DIGIT ZERO FULL STOP;2COMMA;1ONE COMMA;1TWO COMMA;1m COMMA;1FOUR COMMA;1FIVE COMMA
  1F107 1SIX COMMA;1SEVEN COMMA;1EIGHT COMMA;1NINE COMMA;0DINGBAT CIRCLED SANS-SERIF DIGIT ZERO
  1F10C 1NEGATIVE CIRCLED SANS-SERIF DIGIT ZERO;0CIRCLED ZERO w SLASH;1ANTICLOCKWISE a
  1F10F 1DOLLAR i w OVERLAID BACKSLASH;0PARENTHESIZED LATIN c l A;4B;4C;4D;4E;4F;4G;4H;4I;4J;4K;4L
  1F11C 4M;4N;4O;4P;4Q;4R;4S;4T;4U;4V;4W;4X;4Y;4Z;0TORTOISE SHELL BRACKETED LATIN c l S
  1F12B 0CIRCLED ITALIC LATIN c l C;5R;1CD;1WZ;0COPYLEFT y;0SQUARED LATIN c l A;4B;4C;4D;4E;4F;4G
  1F137 4H;4I;4J;4K;4L;4M;4N;4O;4P;4Q;4R;4S;4T;4U;4V;4W;4X;4Y;4Z;1HV;1MV;1SD;1SS;1PPV;1WC
  1F150 0NEGATIVE CIRCLED LATIN c l A;5B;5C;5D;5E;5F;5G;5H;5I;5J;5K;5L;5M;5N;5O;5P;5Q;5R;5S;5T;5U
  1F165 5V;5W;5X;5Y;5Z;0RAISED MC i;1MD i;1MR i;0CIRCLED CC;1C w OVERLAID BACKSLASH;1HUMAN FIGURE
  1F170 0NEGATIVE SQUARED LATIN c l A;5B;5C;5D;5E;5F;5G;5H;5I;5J;5K;5L;5M;5N;5O;5P;5Q;5R;5S;5T;5U
  1F185 5V;5W;5X;5Y;5Z;0CROSSED NEGATIVE SQUARED LATIN c l P;0NEGATIVE SQUARED IC;2PA;2SA;2AB;2WC
  1F190 0SQUARE DJ;0SQUARED CL;1COOL;1FREE;1ID;1NEW;1NG;1OK;1SOS;1UP w EXCLAMATION MARK;1VS;1m D
  1F19C 1SECOND SCREEN;1TWO K;1FOUR K;1EIGHT K;1FIVE POINT ONE;1SEVEN POINT ONE
  1F1A2 1TWENTY-TWO POINT TWO;1SIXTY P;1ONE HUNDRED TWENTY P;1LATIN s l D;1HC;1HDR;1HI-RES
  1F1A9 1LOSSLESS;1SHV;1UHD;1VOD;0MASK WORK y
  1F1E6 0REGIONAL INDICATOR y l A;4B;4C;4D;4E;4F;4G;4H;4I;4J;4K;4L;4M;4N;4O;4P;4Q;4R;4S;4T;4U;4V
  1F1FC 4W;4X;4Y;4Z;0SQUARE HIRAGANA HOKA;0SQUARED KATAKANA KOKO;2SA
  1F210 1CJK UNIFIED IDEOGRAPH-624B;3IDEOGRAPH-5B57;3IDEOGRAPH-53CC;1KATAKANA DE
  1F214 1CJK UNIFIED IDEOGRAPH-4E8C;3IDEOGRAPH-591A;3IDEOGRAPH-89E3;3IDEOGRAPH-5929
  1F218 3IDEOGRAPH-4EA4;3IDEOGRAPH-6620;3IDEOGRAPH-7121;3IDEOGRAPH-6599;3IDEOGRAPH-524D
  1F21D 3IDEOGRAPH-5F8C;3IDEOGRAPH-518D;3IDEOGRAPH-65B0;3IDEOGRAPH-521D;3IDEOGRAPH-7D42
  1F222 3IDEOGRAPH-751F;3IDEOGRAPH-8CA9;3IDEOGRAPH-58F0;3IDEOGRAPH-5439;3IDEOGRAPH-6F14
  1F227 3IDEOGRAPH-6295;3IDEOGRAPH-6355;3IDEOGRAPH-4E00;3IDEOGRAPH-4E09;3IDEOGRAPH-904A
  1F22C 3IDEOGRAPH-5DE6;3IDEOGRAPH-4E2D;3IDEOGRAPH-53F3;3IDEOGRAPH-6307;3IDEOGRAPH-8D70
  1F231 3IDEOGRAPH-6253;3IDEOGRAPH-7981;3IDEOGRAPH-7A7A;3IDEOGRAPH-5408;3IDEOGRAPH-6E80
  1F236 3IDEOGRAPH-6709;3IDEOGRAPH-6708;3IDEOGRAPH-7533;3IDEOGRAPH-5272;3IDEOGRAPH-55B6
  1F23B 3IDEOGRAPH-914D
  1F240 0TORTOISE SHELL BRACKETED CJK UNIFIED IDEOGRAPH-672C;5IDEOGRAPH-4E09;5IDEOGRAPH-4E8C
  1F243 5IDEOGRAPH-5B89;5IDEOGRAPH-70B9;5IDEOGRAPH-6253;5IDEOGRAPH-76D7;5IDEOGRAPH-52DD
  1F248 5IDEOGRAPH-6557
  1F250 0CIRCLED IDEOGRAPH ADVANTAGE;2ACCEPT
  1F260 0ROUNDED y FOR FU;3LU;3SHOU;3XI;3SHUANGXI;3CAI
  1F300 0CYCLONE;0FOGGY;0CLOSED UMBRELLA;0NIGHT w STARS;0SUNRISE OVER MOUNTAINS;1
  1F306 0CITYSCAPE AT DUSK;0SUNSET OVER BUILDINGS;0RAINBOW;0BRIDGE AT NIGHT;0WATER WAVE;0VOLCANO
  1F30C 0MILKY WAY;0EARTH GLOBE EUROPE-AFRICA;2AMERICAS;2ASIA-AUSTRALIA;0GLOBE w MERIDIANS
  1F311 0NEW MOON y;0WAXING CRESCENT MOON y;0FIRST QUARTER MOON y;0WAXING GIBBOUS MOON y
  1F315 0FULL MOON y;0WANING GIBBOUS MOON y;0LAST QUARTER MOON y;0WANING CRESCENT MOON y
  1F319 0CRESCENT MOON;0NEW MOON w FACE;0FIRST QUARTER MOON w FACE;0LAST QUARTER MOON w FACE
  1F31D 0FULL MOON w FACE;0SUN w FACE;0GLOWING STAR;0SHOOTING STAR;0THERMOMETER;0u DROPLET;0x SUN
  1F324 2w s CLOUD;2BEHIND CLOUD;4w RAIN;0CLOUD w RAIN;2SNOW;2LIGHTNING;2TORNADO;0FOG
  1F32C 0WIND BLOWING FACE;0HOT DOG;0TACO;0BURRITO;0CHESTNUT;0SEEDLING;0EVERGREEN TREE
  1F333 0DECIDUOUS TREE;0PALM TREE;0CACTUS;0HOT PEPPER;0TULIP;0CHERRY BLOSSOM;0ROSE;0HIBISCUS
  1F33B 0SUNFLOWER;0BLOSSOM;0EAR OF MAIZE;2RICE;0HERB;0FOUR LEAF CLOVER;0MAPLE LEAF;0FALLEN LEAF
  1F343 0LEAF FLUTTERING IN WIND;0MUSHROOM;0TOMATO;0AUBERGINE;0GRAPES;0MELON;0WATERMELON
  1F34A 0TANGERINE;0LEMON;0BANANA;0PINEAPPLE;0RED APPLE;0GREEN APPLE;0PEAR;0PEACH;0CHERRIES
  1F353 0STRAWBERRY;0HAMBURGER;0SLICE OF PIZZA;0MEAT ON BONE;0POULTRY LEG;0RICE CRACKER;1BALL
  1F35A 0COOKED RICE;0CURRY h RICE;0STEAMING BOWL;0SPAGHETTI;0BREAD;0FRENCH FRIES
  1F360 0ROASTED SWEET POTATO;0DANGO;0ODEN;0SUSHI;0FRIED SHRIMP;0FISH CAKE w SWIRL DESIGN
  1F366 0SOFT ICE CREAM;0SHAVED ICE;0ICE CREAM;0DOUGHNUT;0COOKIE;0CHOCOLATE BAR;0CANDY;0LOLLIPOP
  1F36E 0CUSTARD;0HONEY POT;0SHORTCAKE;0BENTO BOX;0POT OF FOOD;0COOKING;0FORK h KNIFE
  1F375 0TEACUP WITHOUT HANDLE;0SAKE BOTTLE h CUP;0WINE GLASS;0COCKTAIL GLASS;0TROPICAL DRINK
  1F37A 0BEER MUG;0CLINKING BEER MUGS;0BABY BOTTLE;0FORK h KNIFE w PLATE;0BOTTLE w POPPING CORK
  1F37F 0POPCORN;0RIBBON;0WRAPPED PRESENT;0BIRTHDAY CAKE;0JACK-O-LANTERN;0CHRISTMAS TREE
  1F385 0FATHER CHRISTMAS;0FIREWORKS;0FIREWORK SPARKLER;0BALLOON;0PARTY POPPER;0CONFETTI BALL
  1F38B 0TANABATA TREE;0CROSSED FLAGS;0PINE DECORATION;0JAPANESE DOLLS;0CARP STREAMER;0WIND CHIME
  1F391 0MOON VIEWING CEREMONY;0SCHOOL SATCHEL;0GRADUATION CAP;0HEART w TIP ON THE t
  1F395 0BOUQUET OF FLOWERS;0MILITARY MEDAL;0REMINDER RIBBON;0MUSICAL KEYBOARD w JACKS
  1F399 0STUDIO MICROPHONE;0LEVEL SLIDER;0CONTROL KNOBS;0BEAMED ASCENDING MUSICAL NOTES
  1F39D 1DESCENDING MUSICAL NOTES;0FILM FRAMES;0ADMISSION TICKETS;0CAROUSEL HORSE;0FERRIS WHEEL
  1F3A2 0ROLLER COASTER;0FISHING POLE h FISH;0MICROPHONE;0MOVIE CAMERA;0CINEMA;0HEADPHONE
  1F3A8 0ARTIST PALETTE;0TOP HAT;0CIRCUS TENT;0TICKET;0CLAPPER BOARD;0PERFORMING ARTS;0VIDEO GAME
  1F3AF 0DIRECT HIT;0SLOT MACHINE;0BILLIARDS;0GAME DIE;0BOWLING;0FLOWER PLAYING CARDS
  1F3B5 0MUSICAL NOTE;0MULTIPLE MUSICAL NOTES;0SAXOPHONE;0GUITAR;0MUSICAL KEYBOARD;0TRUMPET
  1F3BB 0VIOLIN;0MUSICAL SCORE;0RUNNING SHIRT w SASH;0TENNIS RACQUET h BALL;0SKI h SKI BOOT
  1F3C0 0BASKETBALL h HOOP;0CHEQUERED FLAG;0SNOWBOARDER;0RUNNER;0SURFER;0SPORTS MEDAL;0TROPHY
  1F3C7 0HORSE RACING;0AMERICAN FOOTBALL;0RUGBY FOOTBALL;0SWIMMER;0WEIGHT LIFTER;0GOLFER
  1F3CD 0RACING MOTORCYCLE;1CAR;0CRICKET BAT h BALL;0VOLLEYBALL;0FIELD HOCKEY STICK h BALL
  1F3D2 0ICE HOCKEY STICK h PUCK;0TABLE TENNIS PADDLE h BALL;0SNOW CAPPED MOUNTAIN;0CAMPING
  1F3D6 0BEACH w UMBRELLA;0BUILDING CONSTRUCTION;0HOUSE BUILDINGS;0CITYSCAPE
  1F3DA 0DERELICT HOUSE BUILDING;0CLASSICAL BUILDING;0DESERT;1ISLAND;0NATIONAL PARK;0STADIUM
  1F3E0 0HOUSE BUILDING;1w GARDEN;0OFFICE BUILDING;0JAPANESE POST OFFICE;0EUROPEAN POST OFFICE
  1F3E5 0HOSPITAL;0BANK;0AUTOMATED TELLER MACHINE;0HOTEL;0LOVE HOTEL;0CONVENIENCE STORE;0SCHOOL
  1F3EC 0DEPARTMENT STORE;0FACTORY;0IZAKAYA LANTERN;0JAPANESE CASTLE;0EUROPEAN CASTLE;0x PENNANT
  1F3F2 0u PENNANT;0WAVING x FLAG;1u FLAG;0ROSETTE;0u ROSETTE;0LABEL
  1F3F8 0BADMINTON RACQUET h SHUTTLECOCK;0BOW h a;0AMPHORA;0EMOJI MODIFIER FITZPATRICK TYPE-1-2
  1F3FC 3TYPE-3;3TYPE-4;3TYPE-5;3TYPE-6;0RAT;0MOUSE;0OX;0WATER BUFFALO;0COW;0TIGER;0LEOPARD
  1F407 0RABBIT;0CAT;0DRAGON;0CROCODILE;0WHALE;0SNAIL;0SNAKE;0HORSE;0RAM;0GOAT;0SHEEP;0MONKEY
  1F413 0ROOSTER;0CHICKEN;0DOG;0PIG;0BOAR;0ELEPHANT;0OCTOPUS;0SPIRAL SHELL;0BUG;0ANT;0HONEYBEE
  1F41E 0LADY BEETLE;0FISH;0TROPICAL FISH;0BLOWFISH;0TURTLE;0HATCHING CHICK;0BABY CHICK
  1F425 0FRONT-FACING BABY CHICK;0BIRD;0PENGUIN;0KOALA;0POODLE;0DROMEDARY CAMEL;0BACTRIAN CAMEL
  1F42C 0DOLPHIN;0MOUSE FACE;0COW FACE;0TIGER FACE;0RABBIT FACE;0CAT FACE;0DRAGON FACE
  1F433 0SPOUTING WHALE;0HORSE FACE;0MONKEY FACE;0DOG FACE;0PIG FACE;0FROG FACE;0HAMSTER FACE
  1F43A 0WOLF FACE;0BEAR FACE;0PANDA FACE;0PIG NOSE;0PAW PRINTS;0CHIPMUNK;0EYES;0EYE;0EAR;0NOSE
  1F444 0MOUTH;0TONGUE;0x UP POINTING BACKHAND INDEX;1DOWN POINTING BACKHAND INDEX
  1F448 1t POINTING BACKHAND INDEX;1r POINTING BACKHAND INDEX;0FISTED HAND i;0WAVING HAND i
  1F44C 0OK HAND i;0THUMBS UP i;1DOWN i;0CLAPPING HANDS i;0OPEN HANDS i;0CROWN;0WOMANS HAT
  1F453 0EYEGLASSES;0NECKTIE;0T-SHIRT;0JEANS;0DRESS;0KIMONO;0BIKINI;0WOMANS CLOTHES;0PURSE
  1F45C 0HANDBAG;0POUCH;0MANS SHOE;0ATHLETIC SHOE;0HIGH-HEELED SHOE;0WOMANS SANDAL;1BOOTS
  1F463 0FOOTPRINTS;0BUST IN SILHOUETTE;0BUSTS IN SILHOUETTE;0BOY;0GIRL;0MAN;0WOMAN;0FAMILY
  1F46B 0MAN h WOMAN HOLDING HANDS;0TWO MEN HOLDING HANDS;1WOMEN HOLDING HANDS;0POLICE OFFICER
  1F46F 0WOMAN w BUNNY EARS;0BRIDE w VEIL;0PERSON w BLOND HAIR;0MAN w GUA PI MAO;2TURBAN
  1F474 0OLDER MAN;1WOMAN;0BABY;0CONSTRUCTION WORKER;0PRINCESS;0JAPANESE OGRE;1GOBLIN;0GHOST
  1F47C 0BABY ANGEL;0EXTRATERRESTRIAL ALIEN;0ALIEN MONSTER;0IMP;0SKULL;0INFORMATION DESK PERSON
  1F482 0GUARDSMAN;0DANCER;0LIPSTICK;0NAIL POLISH;0FACE MASSAGE;0HAIRCUT;0BARBER POLE;0SYRINGE
  1F48A 0PILL;0KISS MARK;0LOVE l;0RING;0GEM STONE;0KISS;0BOUQUET;0COUPLE w HEART;0WEDDING
  1F493 0BEATING HEART;0BROKEN HEART;0TWO HEARTS;0SPARKLING HEART;0GROWING HEART;0HEART w a
  1F499 0BLUE HEART;0GREEN HEART;0YELLOW HEART;0PURPLE HEART;0HEART w RIBBON;0REVOLVING HEARTS
  1F49F 0HEART DECORATION;0DIAMOND SHAPE w A DOT INSIDE;0ELECTRIC LIGHT BULB;0ANGER y;0BOMB
  1F4A4 0SLEEPING y;0COLLISION y;0SPLASHING SWEAT y;0DROPLET;0DASH y;0PILE OF POO;0FLEXED BICEPS
  1F4AB 0DIZZY y;0SPEECH BALLOON;0THOUGHT BALLOON;0x FLOWER;0HUNDRED POINTS y;0MONEY BAG
  1F4B1 0CURRENCY EXCHANGE;0HEAVY DOLLAR i;0CREDIT CARD;0BANKNOTE w YEN i;2DOLLAR i;2EURO i
  1F4B7 2POUND i;0MONEY w WINGS;0CHART w UPWARDS TREND h YEN i;0SEAT;0PERSONAL COMPUTER;0BRIEFCASE
  1F4BD 0MINIDISC;0FLOPPY DISK;0OPTICAL DISC;0DVD;0FILE FOLDER;0OPEN FILE FOLDER;0PAGE w CURL
  1F4C4 1FACING UP;0CALENDAR;0TEAR-OFF CALENDAR;0CARD INDEX;0CHART w UPWARDS TREND
  1F4C9 2DOWNWARDS TREND;0BAR CHART;0CLIPBOARD;0PUSHPIN;0ROUND PUSHPIN;0PAPERCLIP;0STRAIGHT RULER
  1F4D0 0TRIANGULAR RULER;0BOOKMARK TABS;0LEDGER;0NOTEBOOK;1w DECORATIVE COVER;0CLOSED BOOK
  1F4D6 0OPEN BOOK;0GREEN BOOK;0BLUE BOOK;0ORANGE BOOK;0BOOKS;0NAME BADGE;0SCROLL;0MEMO
  1F4DE 0TELEPHONE RECEIVER;0PAGER;0FAX MACHINE;0SATELLITE ANTENNA;0PUBLIC ADDRESS LOUDSPEAKER
  1F4E3 0CHEERING MEGAPHONE;0OUTBOX TRAY;0INBOX TRAY;0PACKAGE;0E-MAIL y;0INCOMING ENVELOPE
  1F4E9 0ENVELOPE w DOWNWARDS a b;0CLOSED MAILBOX w LOWERED FLAG;3RAISED FLAG
  1F4EC 0OPEN MAILBOX w RAISED FLAG;3LOWERED FLAG;0POSTBOX;0POSTAL HORN;0NEWSPAPER;0MOBILE PHONE
  1F4F2 2w g a AT t;0VIBRATION MODE;0MOBILE PHONE OFF;0NO MOBILE PHONES;0ANTENNA w BARS;0CAMERA
  1F4F8 1w FLASH;0VIDEO CAMERA;0TELEVISION;0RADIO;0VIDEOCASSETTE;0FILM PROJECTOR;0PORTABLE STEREO
  1F4FF 0PRAYER BEADS;0TWISTED g ARROWS;0CLOCKWISE g h j OPEN CIRCLE ARROWS;7w CIRCLED ONE OVERLAY
  1F503 1DOWNWARDS h UPWARDS OPEN CIRCLE ARROWS
  1F504 0ANTICLOCKWISE DOWNWARDS h UPWARDS OPEN CIRCLE ARROWS;0LOW BRIGHTNESS y;0HIGH BRIGHTNESS y
  1F507 0SPEAKER w CANCELLATION q;1;1w ONE SOUND WAVE;2m SOUND WAVES;0BATTERY;0ELECTRIC PLUG
  1F50D 0LEFT-POINTING MAGNIFYING GLASS;0RIGHT-POINTING MAGNIFYING GLASS;0LOCK w INK PEN
  1F510 0CLOSED LOCK w KEY;0KEY;0LOCK;0OPEN LOCK;0BELL;1w CANCELLATION q;0BOOKMARK;0LINK y
  1F518 0RADIO BUTTON;0BACK w j a b;0END w j a b;0ON w EXCLAMATION MARK w t r a b;0SOON w g a b
  1F51D 0TOP w UPWARDS a b;0NO ONE UNDER EIGHTEEN y;0KEYCAP TEN;0INPUT y FOR LATIN c LETTERS
  1F521 4s LETTERS;3NUMBERS;3SYMBOLS;3LATIN LETTERS;0FIRE;0ELECTRIC TORCH;0WRENCH;0HAMMER
  1F529 0NUT h BOLT;0HOCHO;0PISTOL;0MICROSCOPE;0TELESCOPE;0CRYSTAL BALL
  1F52F 0SIX POINTED STAR w MIDDLE DOT;0JAPANESE y FOR BEGINNER;0TRIDENT EMBLEM;0u SQUARE BUTTON
  1F533 0x SQUARE BUTTON;0LARGE RED CIRCLE;1BLUE CIRCLE;1ORANGE DIAMOND;1BLUE DIAMOND
  1F538 0s ORANGE DIAMOND;1BLUE DIAMOND;0UP-POINTING RED TRIANGLE;0DOWN-POINTING RED TRIANGLE
  1F53C 0UP-POINTING s RED TRIANGLE;0DOWN-POINTING s RED TRIANGLE;0LOWER r SHADOWED x CIRCLE
  1F53F 0UPPER r SHADOWED x CIRCLE;0CIRCLED CROSS POMMEE;0CROSS POMMEE w HALF-CIRCLE e;2
  1F543 0NOTCHED t SEMICIRCLE w m DOTS;1r SEMICIRCLE w m DOTS;0y FOR MARKS CHAPTER;0x LATIN CROSS
  1F547 0HEAVY LATIN CROSS;0CELTIC CROSS;0OM y;0DOVE OF PEACE;0KAABA;0MOSQUE;0SYNAGOGUE
  1F54E 0MENORAH w NINE BRANCHES;0BOWL OF HYGIEIA;0CLOCK FACE ONE OCLOCK;2TWO OCLOCK;2m OCLOCK
  1F553 2FOUR OCLOCK;2FIVE OCLOCK;2SIX OCLOCK;2SEVEN OCLOCK;2EIGHT OCLOCK;2NINE OCLOCK;2TEN OCLOCK
  1F55A 2ELEVEN OCLOCK;2TWELVE OCLOCK;2ONE-THIRTY;2TWO-THIRTY;2THREE-THIRTY;2FOUR-THIRTY
  1F560 2FIVE-THIRTY;2SIX-THIRTY;2SEVEN-THIRTY;2EIGHT-THIRTY;2NINE-THIRTY;2TEN-THIRTY
  1F566 2ELEVEN-THIRTY;2TWELVE-THIRTY;0r SPEAKER;2w ONE SOUND WAVE;3m SOUND WAVES;0BULLHORN
  1F56C 1w SOUND WAVES;0RINGING BELL;0BOOK;0CANDLE;0MANTELPIECE CLOCK;0u SKULL h CROSSBONES
  1F572 0NO PIRACY;0HOLE;0MAN IN BUSINESS SUIT LEVITATING;0SLEUTH OR SPY;0DARK SUNGLASSES;0SPIDER
  1F578 1WEB;0JOYSTICK;0MAN DANCING;0t HAND TELEPHONE RECEIVER;0TELEPHONE RECEIVER w PAGE
  1F57D 0r HAND TELEPHONE RECEIVER;0x TOUCHTONE TELEPHONE;0u TOUCHTONE TELEPHONE
  1F580 0TELEPHONE ON TOP OF MODEM;0CLAMSHELL MOBILE PHONE;0BACK OF ENVELOPE;0STAMPED ENVELOPE
  1F584 0ENVELOPE w LIGHTNING;0FLYING ENVELOPE;0PEN OVER STAMPED ENVELOPE;0LINKED PAPERCLIPS
  1F588 0u PUSHPIN;0LOWER t PENCIL;2BALLPOINT PEN;2FOUNTAIN PEN;2PAINTBRUSH;2CRAYON
  1F58E 0t WRITING HAND;0TURNED OK HAND i;0RAISED HAND w FINGERS SPLAYED
  1F591 0REVERSED RAISED HAND w FINGERS SPLAYED;1THUMBS UP i;2DOWN i;1VICTORY HAND
  1F595 1HAND w MIDDLE FINGER EXTENDED;0RAISED HAND w PART BETWEEN MIDDLE h RING FINGERS
  1F597 0x DOWN POINTING t HAND INDEX;0SIDEWAYS x t POINTING INDEX;2r POINTING INDEX
  1F59A 1u t POINTING INDEX;2r POINTING INDEX;0u t POINTING BACKHAND INDEX
  1F59D 1r POINTING BACKHAND INDEX;0SIDEWAYS x UP POINTING INDEX;2DOWN POINTING INDEX
  1F5A0 1u UP POINTING INDEX;2DOWN POINTING INDEX;0u UP POINTING BACKHAND INDEX
  1F5A3 1DOWN POINTING BACKHAND INDEX;1HEART;0DESKTOP COMPUTER;0KEYBOARD h MOUSE
  1F5A7 0m NETWORKED COMPUTERS;0PRINTER;0POCKET CALCULATOR;0u HARD SHELL FLOPPY DISK
  1F5AB 0x HARD SHELL FLOPPY DISK;0SOFT SHELL FLOPPY DISK;0TAPE CARTRIDGE;0WIRED KEYBOARD
  1F5AF 0ONE BUTTON MOUSE;0TWO BUTTON MOUSE;0m BUTTON MOUSE;0TRACKBALL;0OLD PERSONAL COMPUTER
  1F5B4 0HARD DISK;0SCREEN;0PRINTER ICON;0FAX ICON;0OPTICAL DISC ICON;0DOCUMENT w TEXT;3h PICTURE
  1F5BB 2PICTURE;0FRAME w PICTURE;2TILES;2AN X;0u FOLDER;0FOLDER;0OPEN FOLDER;0CARD INDEX DIVIDERS
  1F5C3 1FILE BOX;0FILE CABINET;0EMPTY NOTE;2PAGE;2PAD;0NOTE;1PAGE;1PAD;0EMPTY DOCUMENT;1PAGE
  1F5CD 1PAGES;0DOCUMENT;0PAGE;0PAGES;0WASTEBASKET;0SPIRAL NOTE PAD;1CALENDAR PAD;0DESKTOP WINDOW
  1F5D5 0MINIMIZE;0MAXIMIZE;0OVERLAP;0CLOCKWISE r h t SEMICIRCLE ARROWS;0CANCELLATION X
  1F5DA 0INCREASE FONT SIZE y;0DECREASE FONT SIZE y;0COMPRESSION;0OLD KEY;0ROLLED-UP NEWSPAPER
  1F5DF 0PAGE w CIRCLED TEXT;0STOCK CHART;0DAGGER KNIFE;0LIPS;0SPEAKING HEAD IN SILHOUETTE
  1F5E4 0m RAYS b;2e;2t;2r;0t SPEECH BUBBLE;0r SPEECH BUBBLE;0TWO SPEECH BUBBLES;0m SPEECH BUBBLES
  1F5EC 0t THOUGHT BUBBLE;0r THOUGHT BUBBLE;0t ANGER BUBBLE;0r ANGER BUBBLE;0MOOD BUBBLE
  1F5F1 0LIGHTNING MOOD BUBBLE;2;0BALLOT BOX w BALLOT;1SCRIPT X;1BOX w SCRIPT X;1BOLD SCRIPT X
  1F5F7 1BOX w BOLD SCRIPT X;0LIGHT CHECK MARK;0BALLOT BOX w BOLD CHECK;0WORLD MAP;0MOUNT FUJI
  1F5FC 0TOKYO TOWER;0STATUE OF LIBERTY;0SILHOUETTE OF JAPAN;0MOYAI;0GRINNING FACE;2w SMILING EYES
  1F602 0FACE w TEARS OF JOY;0SMILING FACE w OPEN MOUTH;5h SMILING EYES;6COLD SWEAT
  1F606 6TIGHTLY-CLOSED EYES;3HALO;3HORNS;0WINKING FACE;0SMILING FACE w SMILING EYES
  1F60B 0FACE SAVOURING DELICIOUS FOOD;0RELIEVED FACE;0SMILING FACE w HEART-SHAPED EYES
  1F60E 3SUNGLASSES;0SMIRKING FACE;0NEUTRAL FACE;0EXPRESSIONLESS FACE;0UNAMUSED FACE
  1F613 0FACE w COLD SWEAT;0PENSIVE FACE;0CONFUSED FACE;0CONFOUNDED FACE;0KISSING FACE
  1F618 0FACE THROWING A KISS;0KISSING FACE w SMILING EYES;3CLOSED EYES;0FACE w STUCK-OUT TONGUE
  1F61C 4h WINKING EYE;5TIGHTLY-CLOSED EYES;0DISAPPOINTED FACE;0WORRIED FACE;0ANGRY FACE
  1F621 0POUTING FACE;0CRYING FACE;0PERSEVERING FACE;0FACE w LOOK OF TRIUMPH
  1F625 0DISAPPOINTED BUT RELIEVED FACE;0FROWNING FACE w OPEN MOUTH;0ANGUISHED FACE;0FEARFUL FACE
  1F629 0WEARY FACE;0SLEEPY FACE;0TIRED FACE;0GRIMACING FACE;0LOUDLY CRYING FACE
  1F62E 0FACE w OPEN MOUTH;0HUSHED FACE;0FACE w OPEN MOUTH h COLD SWEAT;1SCREAMING IN FEAR
  1F632 0ASTONISHED FACE;0FLUSHED FACE;0SLEEPING FACE;0DIZZY FACE;0FACE WITHOUT MOUTH
  1F637 1w MEDICAL MASK;0GRINNING CAT FACE w SMILING EYES;0CAT FACE w TEARS OF JOY
  1F63A 0SMILING CAT FACE w OPEN MOUTH;4HEART-SHAPED EYES;0CAT FACE w WRY SMILE
  1F63D 0KISSING CAT FACE w CLOSED EYES;0POUTING CAT FACE;0CRYING CAT FACE;0WEARY CAT FACE
  1F641 0SLIGHTLY FROWNING FACE;1SMILING FACE;0UPSIDE-DOWN FACE;0FACE w ROLLING EYES
  1F645 2NO GOOD GESTURE;2OK GESTURE;0PERSON BOWING DEEPLY;0SEE-NO-EVIL MONKEY
  1F649 0HEAR-NO-EVIL MONKEY;0SPEAK-NO-EVIL MONKEY;0HAPPY PERSON RAISING ONE HAND
  1F64C 0PERSON RAISING BOTH HANDS IN CELEBRATION;1FROWNING;1w POUTING FACE;2FOLDED HANDS
  1F650 0NORTH WEST POINTING LEAF;0SOUTH WEST POINTING LEAF;0NORTH EAST POINTING LEAF
  1F653 0SOUTH EAST POINTING LEAF;0TURNED NORTH WEST POINTING LEAF;1SOUTH WEST POINTING LEAF
  1F656 1NORTH EAST POINTING LEAF;1SOUTH EAST POINTING LEAF;0NORTH WEST POINTING VINE LEAF
  1F659 0SOUTH WEST POINTING VINE LEAF;0NORTH EAST POINTING VINE LEAF
  1F65B 0SOUTH EAST POINTING VINE LEAF;0HEAVY NORTH WEST POINTING VINE LEAF
  1F65D 1SOUTH WEST POINTING VINE LEAF;1NORTH EAST POINTING VINE LEAF
  1F65F 1SOUTH EAST POINTING VINE LEAF;0NORTH WEST POINTING BUD;0SOUTH WEST POINTING BUD
  1F662 0NORTH EAST POINTING BUD;0SOUTH EAST POINTING BUD;0HEAVY NORTH WEST POINTING BUD
  1F665 1SOUTH WEST POINTING BUD;1NORTH EAST POINTING BUD;1SOUTH EAST POINTING BUD
  1F668 0HOLLOW QUILT SQUARE ORNAMENT;4IN u SQUARE;0SOLID QUILT SQUARE ORNAMENT;4IN u SQUARE
  1F66C 0j ROCKET;0UPWARDS ROCKET;0g ROCKET;0DOWNWARDS ROCKET;0SCRIPT LIGATURE ET ORNAMENT
  1F671 0HEAVY SCRIPT LIGATURE ET ORNAMENT;0LIGATURE OPEN ET ORNAMENT
  1F673 0HEAVY LIGATURE OPEN ET ORNAMENT;1AMPERSAND ORNAMENT;0SWASH AMPERSAND ORNAMENT
  1F676 0SANS-SERIF HEAVY d TURNED COMMA QUOTATION MARK ORNAMENT;3COMMA QUOTATION MARK ORNAMENT
  1F678 2LOW d COMMA QUOTATION MARK ORNAMENT;0HEAVY INTERROBANG ORNAMENT
  1F67A 0SANS-SERIF INTERROBANG ORNAMENT;0HEAVY SANS-SERIF INTERROBANG ORNAMENT
  1F67C 0VERY HEAVY SOLIDUS;2REVERSE SOLIDUS;0CHECKER BOARD;0REVERSE CHECKER BOARD;0ROCKET
  1F681 0HELICOPTER;0STEAM LOCOMOTIVE;0RAILWAY CAR;0HIGH-SPEED TRAIN;2w BULLET NOSE;0TRAIN;0METRO
  1F688 0LIGHT RAIL;0STATION;0TRAM;1CAR;0BUS;0ONCOMING BUS;0TROLLEYBUS;0BUS STOP;0MINIBUS
  1F691 0AMBULANCE;0FIRE ENGINE;0POLICE CAR;0ONCOMING POLICE CAR;0TAXI;0ONCOMING TAXI;0AUTOMOBILE
  1F698 0ONCOMING AUTOMOBILE;0RECREATIONAL VEHICLE;0DELIVERY TRUCK;0ARTICULATED LORRY;0TRACTOR
  1F69D 0MONORAIL;0MOUNTAIN RAILWAY;0SUSPENSION RAILWAY;0MOUNTAIN CABLEWAY;0AERIAL TRAMWAY;0SHIP
  1F6A3 0ROWBOAT;0SPEEDBOAT;0z TRAFFIC LIGHT;0v TRAFFIC LIGHT;0CONSTRUCTION i
  1F6A8 0POLICE CARS REVOLVING LIGHT;0TRIANGULAR FLAG ON POST;0DOOR;0NO ENTRY i;0SMOKING y
  1F6AD 0NO SMOKING y;0PUT LITTER IN ITS PLACE y;0DO NOT LITTER y;0POTABLE WATER y
  1F6B1 0NON-POTABLE WATER y;0BICYCLE;0NO BICYCLES;0BICYCLIST;0MOUNTAIN BICYCLIST;0PEDESTRIAN
  1F6B7 0NO PEDESTRIANS;0CHILDREN CROSSING;0MENS y;0WOMENS y;0RESTROOM;0BABY y;0TOILET
  1F6BE 0WATER CLOSET;0SHOWER;0BATH;0BATHTUB;0PASSPORT CONTROL;0CUSTOMS;0BAGGAGE CLAIM;0t LUGGAGE
  1F6C6 0TRIANGLE w ROUNDED CORNERS;0PROHIBITED i;0CIRCLED INFORMATION SOURCE;0BOYS y;0GIRLS y
  1F6CB 0COUCH h LAMP;0SLEEPING ACCOMMODATION;0SHOPPING BAGS;0BELLHOP BELL;0BED;0PLACE OF WORSHIP
  1F6D1 0OCTAGONAL i;0SHOPPING TROLLEY;0STUPA;0PAGODA;0HINDU TEMPLE;0HUT;0ELEVATOR
  1F6DD 0PLAYGROUND SLIDE;0WHEEL;0RING BUOY;0HAMMER h WRENCH;0SHIELD;0OIL DRUM;0MOTORWAY
  1F6E4 0RAILWAY TRACK;0MOTOR BOAT;0UP-POINTING MILITARY AIRPLANE;1AIRPLANE;1s AIRPLANE
  1F6E9 0s AIRPLANE;0NORTHEAST-POINTING AIRPLANE;0AIRPLANE DEPARTURE;1ARRIVING
  1F6F0 0SATELLITE;0ONCOMING FIRE ENGINE;0DIESEL LOCOMOTIVE;0PASSENGER SHIP;0SCOOTER
  1F6F5 0MOTOR SCOOTER;0CANOE;0SLED;0FLYING SAUCER;0SKATEBOARD;0AUTO RICKSHAW;0PICKUP TRUCK
  1F6FC 0ROLLER SKATE
  1F700 0ALCHEMICAL y FOR QUINTESSENCE;3AIR;3FIRE;3EARTH;3WATER;3AQUAFORTIS;3AQUA REGIA;4REGIA-2
  1F708 4VITAE;4VITAE-2;3VINEGAR;3VINEGAR-2;3VINEGAR-3;3SULFUR;3PHILOSOPHERS SULFUR;3u SULFUR
  1F710 3MERCURY SUBLIMATE;4SUBLIMATE-2;4SUBLIMATE-3;3CINNABAR;3SALT;3NITRE;3VITRIOL;3VITRIOL-2
  1F718 3ROCK SALT;4SALT-2;3GOLD;3SILVER;3IRON ORE;4ORE-2;3CROCUS OF IRON;3REGULUS OF IRON
  1F720 3COPPER ORE;3IRON-COPPER ORE;3SUBLIMATE OF COPPER;3CROCUS OF COPPER;5COPPER-2
  1F725 3COPPER ANTIMONIATE;3SALT OF COPPER ANTIMONIATE;3SUBLIMATE OF SALT OF COPPER;3VERDIGRIS
  1F729 3TIN ORE;3LEAD ORE;3ANTIMONY ORE;3SUBLIMATE OF ANTIMONY;3SALT OF ANTIMONY
  1F72E 3SUBLIMATE OF SALT OF ANTIMONY;3VINEGAR OF ANTIMONY;3REGULUS OF ANTIMONY;5ANTIMONY-2;4
  1F733 3REGULUS-2;3REGULUS-3;3REGULUS-4;3ALKALI;3ALKALI-2;3MARCASITE;3SAL-AMMONIAC;3ARSENIC
  1F73B 3REALGAR;3REALGAR-2;3AURIPIGMENT;3BISMUTH ORE;3TARTAR;3TARTAR-2;3QUICK LIME;3BORAX
  1F743 3BORAX-2;3BORAX-3;3ALUM;3OIL;3SPIRIT;3TINCTURE;3GUM;3WAX;3POWDER;3CALX;3TUTTY
  1F74E 3CAPUT MORTUUM;3SCEPTER OF JOVE;3CADUCEUS;3TRIDENT;3STARRED TRIDENT;3LODESTONE;3SOAP
  1F755 3URINE;3HORSE DUNG;3ASHES;3POT ASHES;3BRICK;3POWDERED BRICK;3AMALGAM
  1F75C 3STRATUM SUPER STRATUM;5STRATUM-2;3SUBLIMATION;3PRECIPITATE;3DISTILL;3DISSOLVE;3DISSOLVE-2
  1F763 3PURIFY;3PUTREFACTION;3CRUCIBLE;3CRUCIBLE-2;3CRUCIBLE-3;3CRUCIBLE-4;3CRUCIBLE-5;3ALEMBIC
  1F76B 3BATH OF MARY;5VAPOURS;3RETORT;3HOUR;3NIGHT;3DAY-NIGHT;3MONTH;3HALF DRAM;4OUNCE
  1F780 0u LEFT-POINTING ISOSCELES r TRIANGLE;1UP-POINTING ISOSCELES r TRIANGLE
  1F782 1RIGHT-POINTING ISOSCELES r TRIANGLE;1DOWN-POINTING ISOSCELES r TRIANGLE
  1F784 1SLIGHTLY s CIRCLE;0MEDIUM BOLD x CIRCLE;0BOLD x CIRCLE;0HEAVY x CIRCLE
  1F788 0VERY HEAVY x CIRCLE;0EXTREMELY HEAVY x CIRCLE;0x CIRCLE CONTAINING u s CIRCLE
  1F78B 0ROUND TARGET;0u TINY SQUARE;1SLIGHTLY s SQUARE;0LIGHT x SQUARE;0MEDIUM x SQUARE
  1F790 0BOLD x SQUARE;0HEAVY x SQUARE;0VERY HEAVY x SQUARE;0EXTREMELY HEAVY x SQUARE
  1F794 0x SQUARE CONTAINING u VERY s SQUARE;4MEDIUM SQUARE;0SQUARE TARGET;0u TINY DIAMOND
  1F798 1VERY s DIAMOND;1MEDIUM s DIAMOND;0x DIAMOND CONTAINING u VERY s DIAMOND;4MEDIUM DIAMOND
  1F79C 0DIAMOND TARGET;0u TINY LOZENGE;1VERY s LOZENGE;1MEDIUM s LOZENGE
  1F7A0 0x LOZENGE CONTAINING u s LOZENGE;0THIN GREEK CROSS;0LIGHT GREEK CROSS;0MEDIUM GREEK CROSS
  1F7A4 0BOLD GREEK CROSS;0VERY BOLD GREEK CROSS;1HEAVY GREEK CROSS;0EXTREMELY HEAVY GREEK CROSS
  1F7A8 0THIN SALTIRE;0LIGHT SALTIRE;0MEDIUM SALTIRE;0BOLD SALTIRE;0HEAVY SALTIRE
  1F7AD 0VERY HEAVY SALTIRE;0EXTREMELY HEAVY SALTIRE;0LIGHT FIVE SPOKED ASTERISK
  1F7B0 0MEDIUM FIVE SPOKED ASTERISK;0BOLD FIVE SPOKED ASTERISK;0HEAVY FIVE SPOKED ASTERISK
  1F7B3 0VERY HEAVY FIVE SPOKED ASTERISK;0EXTREMELY HEAVY FIVE SPOKED ASTERISK
  1F7B5 0LIGHT SIX SPOKED ASTERISK;0MEDIUM SIX SPOKED ASTERISK;0BOLD SIX SPOKED ASTERISK
  1F7B8 0HEAVY SIX SPOKED ASTERISK;0VERY HEAVY SIX SPOKED ASTERISK
  1F7BA 0EXTREMELY HEAVY SIX SPOKED ASTERISK;0LIGHT EIGHT SPOKED ASTERISK
  1F7BC 0MEDIUM EIGHT SPOKED ASTERISK;0BOLD EIGHT SPOKED ASTERISK;0HEAVY EIGHT SPOKED ASTERISK
  1F7BF 0VERY HEAVY EIGHT SPOKED ASTERISK;0LIGHT m POINTED u STAR;0MEDIUM m POINTED u STAR
  1F7C2 0m POINTED u STAR;0MEDIUM m POINTED PINWHEEL STAR;0LIGHT FOUR POINTED u STAR
  1F7C5 0MEDIUM FOUR POINTED u STAR;0FOUR POINTED u STAR;0MEDIUM FOUR POINTED PINWHEEL STAR
  1F7C8 0REVERSE LIGHT FOUR POINTED PINWHEEL STAR;0LIGHT FIVE POINTED u STAR
  1F7CA 0HEAVY FIVE POINTED u STAR;0MEDIUM SIX POINTED u STAR;0HEAVY SIX POINTED u STAR
  1F7CD 0SIX POINTED PINWHEEL STAR;0MEDIUM EIGHT POINTED u STAR;0HEAVY EIGHT POINTED u STAR
  1F7D0 0VERY HEAVY EIGHT POINTED u STAR;0HEAVY EIGHT POINTED PINWHEEL STAR
  1F7D2 0LIGHT TWELVE POINTED u STAR;0HEAVY TWELVE POINTED u STAR;3PINWHEEL STAR;0CIRCLED TRIANGLE
  1F7D6 0NEGATIVE CIRCLED TRIANGLE;0CIRCLED SQUARE;0NEGATIVE CIRCLED SQUARE
  1F7E0 0LARGE ORANGE CIRCLE;1YELLOW CIRCLE;1GREEN CIRCLE;1PURPLE CIRCLE;1BROWN CIRCLE;1RED SQUARE
  1F7E6 1BLUE SQUARE;1ORANGE SQUARE;1YELLOW SQUARE;1GREEN SQUARE;1PURPLE SQUARE;1BROWN SQUARE
  1F7F0 0HEAVY EQUALS i
  1F800 0j a w s TRIANGLE ARROWHEAD;0UPWARDS a w s TRIANGLE ARROWHEAD;0g a w s TRIANGLE ARROWHEAD
  1F803 0DOWNWARDS a w s TRIANGLE ARROWHEAD;0j a w MEDIUM TRIANGLE ARROWHEAD
  1F805 0UPWARDS a w MEDIUM TRIANGLE ARROWHEAD;0g a w MEDIUM TRIANGLE ARROWHEAD
  1F807 0DOWNWARDS a w MEDIUM TRIANGLE ARROWHEAD;0j a w LARGE TRIANGLE ARROWHEAD
  1F809 0UPWARDS a w LARGE TRIANGLE ARROWHEAD;0g a w LARGE TRIANGLE ARROWHEAD
  1F80B 0DOWNWARDS a w LARGE TRIANGLE ARROWHEAD
  1F810 0j a w s EQUILATERAL ARROWHEAD;0UPWARDS a w s EQUILATERAL ARROWHEAD
  1F812 0g a w s EQUILATERAL ARROWHEAD;0DOWNWARDS a w s EQUILATERAL ARROWHEAD
  1F814 0j a w EQUILATERAL ARROWHEAD;0UPWARDS a w EQUILATERAL ARROWHEAD
  1F816 0g a w EQUILATERAL ARROWHEAD;0DOWNWARDS a w EQUILATERAL ARROWHEAD
  1F818 0HEAVY j a w EQUILATERAL ARROWHEAD;1UPWARDS a w EQUILATERAL ARROWHEAD
  1F81A 1g a w EQUILATERAL ARROWHEAD;1DOWNWARDS a w EQUILATERAL ARROWHEAD
  1F81C 1j a w LARGE EQUILATERAL ARROWHEAD;1UPWARDS a w LARGE EQUILATERAL ARROWHEAD
  1F81E 1g a w LARGE EQUILATERAL ARROWHEAD;1DOWNWARDS a w LARGE EQUILATERAL ARROWHEAD
  1F820 0j p a w NARROW SHAFT;0UPWARDS p a w NARROW SHAFT;0g p a w NARROW SHAFT
  1F823 0DOWNWARDS p a w NARROW SHAFT;0j p a w MEDIUM SHAFT;0UPWARDS p a w MEDIUM SHAFT
  1F826 0g p a w MEDIUM SHAFT;0DOWNWARDS p a w MEDIUM SHAFT;0j p a w BOLD SHAFT
  1F829 0UPWARDS p a w BOLD SHAFT;0g p a w BOLD SHAFT;0DOWNWARDS p a w BOLD SHAFT
  1F82C 0j p a w HEAVY SHAFT;0UPWARDS p a w HEAVY SHAFT;0g p a w HEAVY SHAFT
  1F82F 0DOWNWARDS p a w HEAVY SHAFT;0j p a w VERY HEAVY SHAFT;0UPWARDS p a w VERY HEAVY SHAFT
  1F832 0g p a w VERY HEAVY SHAFT;0DOWNWARDS p a w VERY HEAVY SHAFT;0j FINGER-POST a
  1F835 0UPWARDS FINGER-POST a;0g FINGER-POST a;0DOWNWARDS FINGER-POST a;0j SQUARED a
  1F839 0UPWARDS SQUARED a;0g SQUARED a;0DOWNWARDS SQUARED a;0j COMPRESSED a;0UPWARDS COMPRESSED a
  1F83E 0g COMPRESSED a;0DOWNWARDS COMPRESSED a;0j HEAVY COMPRESSED a;0UPWARDS HEAVY COMPRESSED a
  1F842 0g HEAVY COMPRESSED a;0DOWNWARDS HEAVY COMPRESSED a;0j HEAVY a;0UPWARDS HEAVY a;0g HEAVY a
  1F847 0DOWNWARDS HEAVY a
  1F850 0j SANS-SERIF a;0UPWARDS SANS-SERIF a;0g SANS-SERIF a;0DOWNWARDS SANS-SERIF a
  1F854 0NORTH WEST SANS-SERIF a;1EAST SANS-SERIF a;0SOUTH EAST SANS-SERIF a;1WEST SANS-SERIF a
  1F858 0t r SANS-SERIF a;0UP DOWN SANS-SERIF a
  1F860 0WIDE-HEADED j LIGHT BARB a;1UPWARDS LIGHT BARB a;1g LIGHT BARB a;1DOWNWARDS LIGHT BARB a
  1F864 1NORTH WEST LIGHT BARB a;2EAST LIGHT BARB a;1SOUTH EAST LIGHT BARB a;2WEST LIGHT BARB a
  1F868 1j BARB a;1UPWARDS BARB a;1g BARB a;1DOWNWARDS BARB a;1NORTH WEST BARB a;2EAST BARB a
  1F86E 1SOUTH EAST BARB a;2WEST BARB a;1j MEDIUM BARB a;1UPWARDS MEDIUM BARB a;1g MEDIUM BARB a
  1F873 1DOWNWARDS MEDIUM BARB a;1NORTH WEST MEDIUM BARB a;2EAST MEDIUM BARB a
  1F876 1SOUTH EAST MEDIUM BARB a;2WEST MEDIUM BARB a;1j HEAVY BARB a;1UPWARDS HEAVY BARB a
  1F87A 1g HEAVY BARB a;1DOWNWARDS HEAVY BARB a;1NORTH WEST HEAVY BARB a;2EAST HEAVY BARB a
  1F87E 1SOUTH EAST HEAVY BARB a;2WEST HEAVY BARB a;1j VERY HEAVY BARB a
  1F881 1UPWARDS VERY HEAVY BARB a;1g VERY HEAVY BARB a;1DOWNWARDS VERY HEAVY BARB a
  1F884 1NORTH WEST VERY HEAVY BARB a;2EAST VERY HEAVY BARB a;1SOUTH EAST VERY HEAVY BARB a
  1F887 2WEST VERY HEAVY BARB a
  1F890 0j TRIANGLE ARROWHEAD;0UPWARDS TRIANGLE ARROWHEAD;0g TRIANGLE ARROWHEAD
  1F893 0DOWNWARDS TRIANGLE ARROWHEAD;0j x a WITHIN TRIANGLE ARROWHEAD
  1F895 0UPWARDS x a WITHIN TRIANGLE ARROWHEAD;0g x a WITHIN TRIANGLE ARROWHEAD
  1F897 0DOWNWARDS x a WITHIN TRIANGLE ARROWHEAD;0j a w NOTCHED TAIL;0UPWARDS a w NOTCHED TAIL
  1F89A 0g a w NOTCHED TAIL;0DOWNWARDS a w NOTCHED TAIL;0HEAVY a SHAFT WIDTH ONE;4TWO THIRDS
  1F89E 4ONE HALF;5THIRD;0j BOTTOM-SHADED x a;0g BOTTOM SHADED x a;0j TOP SHADED x a
  1F8A3 0g TOP SHADED x a;0j LEFT-SHADED x a;0g RIGHT-SHADED x a;0j RIGHT-SHADED x a
  1F8A7 0g LEFT-SHADED x a;0j BACK-TILTED SHADOWED x a;0g BACK-TILTED SHADOWED x a
  1F8AA 0j FRONT-TILTED SHADOWED x a;0g FRONT-TILTED SHADOWED x a;0x a SHAFT WIDTH ONE;4TWO THIRDS
  1F8B0 0a POINTING UPWARDS THEN NORTH WEST;2g THEN CURVING SOUTH WEST
  1F900 0CIRCLED CROSS FORMEE w FOUR DOTS;4TWO DOTS;3;0t HALF CIRCLE w FOUR DOTS;4m DOTS;4TWO DOTS
  1F906 4DOT;3;0DOWNWARD FACING HOOK;2NOTCHED HOOK;2HOOK w DOT;2NOTCHED HOOK w DOT
  1F90C 0PINCHED FINGERS;0x HEART;0BROWN HEART;0PINCHING HAND;0ZIPPER-MOUTH FACE;0MONEY-MOUTH FACE
  1F912 0FACE w THERMOMETER;0NERD FACE;0THINKING FACE;0FACE w HEAD-BANDAGE;0ROBOT FACE
  1F917 0HUGGING FACE;0i OF THE HORNS;0CALL ME HAND;0RAISED BACK OF HAND;0LEFT-FACING FIST
  1F91C 0RIGHT-FACING FIST;0HANDSHAKE;0HAND w INDEX h MIDDLE FINGERS CROSSED;0I LOVE YOU HAND i
  1F920 0FACE w COWBOY HAT;0CLOWN FACE;0NAUSEATED FACE;0ROLLING ON THE FLOOR LAUGHING
  1F924 0DROOLING FACE;0LYING FACE;0FACE PALM;0SNEEZING FACE;0FACE w ONE EYEBROW RAISED
  1F929 0GRINNING FACE w STAR EYES;3ONE LARGE h ONE s EYE;0FACE w FINGER COVERING CLOSED LIPS
  1F92C 0SERIOUS FACE w SYMBOLS COVERING MOUTH;0SMILING FACE w SMILING EYES h HAND COVERING MOUTH
  1F92E 0FACE w OPEN MOUTH VOMITING;0SHOCKED FACE w EXPLODING HEAD;0PREGNANT WOMAN;0BREAST-FEEDING
  1F932 0PALMS UP TOGETHER;0SELFIE;0PRINCE;0MAN IN TUXEDO;0MOTHER CHRISTMAS;0SHRUG
  1F938 0PERSON DOING CARTWHEEL;0JUGGLING;0FENCER;0MODERN PENTATHLON;0WRESTLERS;0WATER POLO
  1F93E 0HANDBALL;0DIVING MASK;0WILTED FLOWER;0DRUM w DRUMSTICKS;0CLINKING GLASSES;0TUMBLER GLASS
  1F944 0SPOON;0GOAL NET;0RIFLE;0FIRST PLACE MEDAL;0SECOND PLACE MEDAL;0THIRD PLACE MEDAL
  1F94A 0BOXING GLOVE;0MARTIAL ARTS UNIFORM;0CURLING STONE;0LACROSSE STICK h BALL;0SOFTBALL
  1F94F 0FLYING DISC;0CROISSANT;0AVOCADO;0CUCUMBER;0BACON;0POTATO;0CARROT;0BAGUETTE BREAD
  1F957 0GREEN SALAD;0SHALLOW PAN OF FOOD;0STUFFED FLATBREAD;0EGG;0GLASS OF MILK;0PEANUTS
  1F95D 0KIWIFRUIT;0PANCAKES;0DUMPLING;0FORTUNE COOKIE;0TAKEOUT BOX;0CHOPSTICKS;0BOWL w SPOON
  1F964 0CUP w STRAW;0COCONUT;0BROCCOLI;0PIE;0PRETZEL;0CUT OF MEAT;0SANDWICH;0CANNED FOOD
  1F96C 0LEAFY GREEN;0MANGO;0MOON CAKE;0BAGEL;0SMILING FACE w SMILING EYES h m HEARTS
  1F971 0YAWNING FACE;0SMILING FACE w TEAR;0FACE w PARTY HORN h PARTY HAT
  1F974 2UNEVEN EYES h WAVY MOUTH;0OVERHEATED FACE;0FREEZING FACE;0NINJA;0DISGUISED FACE
  1F979 0FACE HOLDING BACK TEARS;1w PLEADING EYES;0SARI;0LAB COAT;0GOGGLES;0HIKING BOOT;0FLAT SHOE
  1F980 0CRAB;0LION FACE;0SCORPION;0TURKEY;0UNICORN FACE;0EAGLE;0DUCK;0BAT;0SHARK;0OWL;0FOX FACE
  1F98B 0BUTTERFLY;0DEER;0GORILLA;0LIZARD;0RHINOCEROS;0SHRIMP;0SQUID;0GIRAFFE FACE;0ZEBRA FACE
  1F994 0HEDGEHOG;0SAUROPOD;0T-REX;0CRICKET;0KANGAROO;0LLAMA;0PEACOCK;0HIPPOPOTAMUS;0PARROT
  1F99D 0RACCOON;0LOBSTER;0MOSQUITO;0MICROBE;0BADGER;0SWAN;0MAMMOTH;0DODO;0SLOTH;0OTTER;0ORANGUTAN
  1F9A8 0SKUNK;0FLAMINGO;0OYSTER;0BEAVER;0BISON;0SEAL;0GUIDE DOG;0PROBING CANE
  1F9B0 0EMOJI COMPONENT RED HAIR;2CURLY HAIR;2BALD;2x HAIR;0BONE;0LEG;0FOOT;0TOOTH;0SUPERHERO
  1F9B9 0SUPERVILLAIN;0SAFETY VEST;0EAR w HEARING AID;0MOTORIZED WHEELCHAIR;0MANUAL WHEELCHAIR
  1F9BE 0MECHANICAL ARM;1LEG;0CHEESE WEDGE;0CUPCAKE;0SALT SHAKER;0BEVERAGE BOX;0GARLIC;0ONION
  1F9C6 0FALAFEL;0WAFFLE;0BUTTER;0MATE DRINK;0ICE CUBE;0BUBBLE TEA;0TROLL;0STANDING PERSON
  1F9CE 0KNEELING PERSON;0DEAF PERSON;0FACE w MONOCLE;0ADULT;0CHILD;0OLDER ADULT;0BEARDED PERSON
  1F9D5 0PERSON w HEADSCARF;1IN STEAMY ROOM;1CLIMBING;1IN LOTUS POSITION;0MAGE;0FAIRY;0VAMPIRE
  1F9DC 0MERPERSON;0ELF;0GENIE;0ZOMBIE;0BRAIN;0ORANGE HEART;0BILLED CAP;0SCARF;0GLOVES;0COAT
  1F9E6 0SOCKS;0RED GIFT ENVELOPE;0FIRECRACKER;0JIGSAW PUZZLE PIECE;0TEST TUBE;0PETRI DISH
  1F9EC 0DNA d HELIX;0COMPASS;0ABACUS;0FIRE EXTINGUISHER;0TOOLBOX;0BRICK;0MAGNET;0LUGGAGE
  1F9F4 0LOTION BOTTLE;0SPOOL OF THREAD;0BALL OF YARN;0SAFETY PIN;0TEDDY BEAR;0BROOM;0BASKET
  1F9FB 0ROLL OF PAPER;0BAR OF SOAP;0SPONGE;0RECEIPT;0NAZAR AMULET;0NEUTRAL CHESS KING;2QUEEN
  1FA02 2ROOK;2BISHOP;2KNIGHT;2PAWN;0x CHESS KNIGHT ROTATED FORTY-FIVE DEGREES
  1FA07 0u CHESS KNIGHT ROTATED FORTY-FIVE DEGREES
  1FA08 0NEUTRAL CHESS KNIGHT ROTATED FORTY-FIVE DEGREES;0x CHESS KING ROTATED NINETY DEGREES
  1FA0A 2QUEEN ROTATED NINETY DEGREES;2ROOK ROTATED NINETY DEGREES;2BISHOP ROTATED NINETY DEGREES
  1FA0D 2KNIGHT ROTATED NINETY DEGREES;2PAWN ROTATED NINETY DEGREES
  1FA0F 0u CHESS KING ROTATED NINETY DEGREES;2QUEEN ROTATED NINETY DEGREES
  1FA11 2ROOK ROTATED NINETY DEGREES;2BISHOP ROTATED NINETY DEGREES;2KNIGHT ROTATED NINETY DEGREES
  1FA14 2PAWN ROTATED NINETY DEGREES;0NEUTRAL CHESS KING ROTATED NINETY DEGREES
  1FA16 2QUEEN ROTATED NINETY DEGREES;2ROOK ROTATED NINETY DEGREES;2BISHOP ROTATED NINETY DEGREES
  1FA19 2KNIGHT ROTATED NINETY DEGREES;2PAWN ROTATED NINETY DEGREES
  1FA1B 0x CHESS KNIGHT ROTATED ONE HUNDRED THIRTY-FIVE DEGREES
  1FA1C 0u CHESS KNIGHT ROTATED ONE HUNDRED THIRTY-FIVE DEGREES
  1FA1D 0NEUTRAL CHESS KNIGHT ROTATED ONE HUNDRED THIRTY-FIVE DEGREES;0x CHESS TURNED KING;3QUEEN
  1FA20 3ROOK;3BISHOP;3KNIGHT;3PAWN;0u CHESS TURNED KING;3QUEEN;3ROOK;3BISHOP;3KNIGHT;3PAWN
  1FA2A 0NEUTRAL CHESS TURNED KING;3QUEEN;3ROOK;3BISHOP;3KNIGHT;3PAWN
  1FA30 0x CHESS KNIGHT ROTATED TWO HUNDRED TWENTY-FIVE DEGREES
  1FA31 0u CHESS KNIGHT ROTATED TWO HUNDRED TWENTY-FIVE DEGREES
  1FA32 0NEUTRAL CHESS KNIGHT ROTATED TWO HUNDRED TWENTY-FIVE DEGREES
  1FA33 0x CHESS KING ROTATED TWO HUNDRED SEVENTY DEGREES
  1FA34 2QUEEN ROTATED TWO HUNDRED SEVENTY DEGREES;2ROOK ROTATED TWO HUNDRED SEVENTY DEGREES
  1FA36 2BISHOP ROTATED TWO HUNDRED SEVENTY DEGREES;2KNIGHT ROTATED TWO HUNDRED SEVENTY DEGREES
  1FA38 2PAWN ROTATED TWO HUNDRED SEVENTY DEGREES
  1FA39 0u CHESS KING ROTATED TWO HUNDRED SEVENTY DEGREES
  1FA3A 2QUEEN ROTATED TWO HUNDRED SEVENTY DEGREES;2ROOK ROTATED TWO HUNDRED SEVENTY DEGREES
  1FA3C 2BISHOP ROTATED TWO HUNDRED SEVENTY DEGREES;2KNIGHT ROTATED TWO HUNDRED SEVENTY DEGREES
  1FA3E 2PAWN ROTATED TWO HUNDRED SEVENTY DEGREES
  1FA3F 0NEUTRAL CHESS KING ROTATED TWO HUNDRED SEVENTY DEGREES
  1FA40 2QUEEN ROTATED TWO HUNDRED SEVENTY DEGREES;2ROOK ROTATED TWO HUNDRED SEVENTY DEGREES
  1FA42 2BISHOP ROTATED TWO HUNDRED SEVENTY DEGREES;2KNIGHT ROTATED TWO HUNDRED SEVENTY DEGREES
  1FA44 2PAWN ROTATED TWO HUNDRED SEVENTY DEGREES
  1FA45 0x CHESS KNIGHT ROTATED m HUNDRED FIFTEEN DEGREES
  1FA46 0u CHESS KNIGHT ROTATED m HUNDRED FIFTEEN DEGREES
  1FA47 0NEUTRAL CHESS KNIGHT ROTATED m HUNDRED FIFTEEN DEGREES;0x CHESS EQUIHOPPER
  1FA49 0u CHESS EQUIHOPPER;0NEUTRAL CHESS EQUIHOPPER;0x CHESS EQUIHOPPER ROTATED NINETY DEGREES
  1FA4C 0u CHESS EQUIHOPPER ROTATED NINETY DEGREES
  1FA4D 0NEUTRAL CHESS EQUIHOPPER ROTATED NINETY DEGREES;0x CHESS KNIGHT-QUEEN;2KNIGHT-ROOK
  1FA50 2KNIGHT-BISHOP;0u CHESS KNIGHT-QUEEN;2KNIGHT-ROOK;2KNIGHT-BISHOP
  1FA60 0XIANGQI RED GENERAL;2MANDARIN;2ELEPHANT;2HORSE;2CHARIOT;2CANNON;2SOLDIER;1u GENERAL
  1FA68 2MANDARIN;2ELEPHANT;2HORSE;2CHARIOT;2CANNON;2SOLDIER
  1FA70 0BALLET SHOES;0ONE-PIECE SWIMSUIT;0BRIEFS;0SHORTS;0THONG SANDAL
  1FA78 0DROP OF BLOOD;0ADHESIVE BANDAGE;0STETHOSCOPE;0X-RAY;0CRUTCH
  1FA80 0YO-YO;0KITE;0PARACHUTE;0BOOMERANG;0MAGIC WAND;0PINATA;0NESTING DOLLS
  1FA90 0RINGED PLANET;0CHAIR;0RAZOR;0AXE;0DIYA LAMP;0BANJO;0MILITARY HELMET;0ACCORDION;0LONG DRUM
  1FA99 0COIN;0CARPENTRY SAW;0SCREWDRIVER;0LADDER;0HOOK;0MIRROR;0WINDOW;0PLUNGER;0SEWING NEEDLE
  1FAA2 0KNOT;0BUCKET;0MOUSE TRAP;0TOOTHBRUSH;0HEADSTONE;0PLACARD;0ROCK;0MIRROR BALL
  1FAAA 0IDENTIFICATION CARD;0LOW BATTERY;0HAMSA
  1FAB0 0FLY;0WORM;0BEETLE;0COCKROACH;0POTTED PLANT;0WOOD;0FEATHER;0LOTUS;0CORAL;0EMPTY NEST
  1FABA 0NEST w EGGS
  1FAC0 0ANATOMICAL HEART;0LUNGS;0PEOPLE HUGGING;0PREGNANT MAN;1PERSON;0PERSON w CROWN
  1FAD0 0BLUEBERRIES;0BELL PEPPER;0OLIVE;0FLATBREAD;0TAMALE;0FONDUE;0TEAPOT;0POURING LIQUID;0BEANS
  1FAD9 0JAR
  1FAE0 0MELTING FACE;0SALUTING FACE;0FACE w OPEN EYES h HAND OVER MOUTH;2PEEKING EYE
  1FAE4 2DIAGONAL MOUTH;0DOTTED LINE FACE;0BITING LIP;0BUBBLES
  1FAF0 0HAND w INDEX FINGER h THUMB CROSSED;0g HAND;0j HAND;0PALM DOWN HAND;1UP HAND
  1FAF5 0INDEX POINTING AT THE VIEWER;0HEART HANDS
  1FB00 0BLOCK SEXTANT-1;1SEXTANT-2;1SEXTANT-12;1SEXTANT-3;1SEXTANT-13;1SEXTANT-23;1SEXTANT-123
  1FB07 1SEXTANT-4;1SEXTANT-14;1SEXTANT-24;1SEXTANT-124;1SEXTANT-34;1SEXTANT-134;1SEXTANT-234
  1FB0E 1SEXTANT-1234;1SEXTANT-5;1SEXTANT-15;1SEXTANT-25;1SEXTANT-125;1SEXTANT-35;1SEXTANT-235
  1FB15 1SEXTANT-1235;1SEXTANT-45;1SEXTANT-145;1SEXTANT-245;1SEXTANT-1245;1SEXTANT-345
  1FB1B 1SEXTANT-1345;1SEXTANT-2345;1SEXTANT-12345;1SEXTANT-6;1SEXTANT-16;1SEXTANT-26;1SEXTANT-126
  1FB22 1SEXTANT-36;1SEXTANT-136;1SEXTANT-236;1SEXTANT-1236;1SEXTANT-46;1SEXTANT-146;1SEXTANT-1246
  1FB29 1SEXTANT-346;1SEXTANT-1346;1SEXTANT-2346;1SEXTANT-12346;1SEXTANT-56;1SEXTANT-156
  1FB2F 1SEXTANT-256;1SEXTANT-1256;1SEXTANT-356;1SEXTANT-1356;1SEXTANT-2356;1SEXTANT-12356
  1FB35 1SEXTANT-456;1SEXTANT-1456;1SEXTANT-2456;1SEXTANT-12456;1SEXTANT-3456;1SEXTANT-13456
  1FB3B 1SEXTANT-23456;0LOWER t BLOCK DIAGONAL LOWER MIDDLE t TO LOWER CENTRE;9r
  1FB3E 4UPPER MIDDLE t TO LOWER CENTRE;9r;5t TO LOWER CENTRE
  1FB41 1r BLOCK DIAGONAL UPPER MIDDLE t TO UPPER CENTRE;9r;4LOWER MIDDLE t TO UPPER CENTRE;9r
  1FB45 5t TO UPPER CENTRE;5MIDDLE t TO UPPER MIDDLE r;5CENTRE TO LOWER MIDDLE r
  1FB48 5t TO LOWER MIDDLE r;5CENTRE TO UPPER MIDDLE r;5t TO UPPER MIDDLE r;5CENTRE TO UPPER r
  1FB4C 1t BLOCK DIAGONAL UPPER CENTRE TO UPPER MIDDLE r;5t TO UPPER MIDDLE r
  1FB4E 5CENTRE TO LOWER MIDDLE r;5t TO LOWER MIDDLE r;5CENTRE TO LOWER r
  1FB51 5MIDDLE t TO LOWER MIDDLE r;0UPPER r BLOCK DIAGONAL LOWER MIDDLE t TO LOWER CENTRE;9r
  1FB54 4UPPER MIDDLE t TO LOWER CENTRE;9r;5t TO LOWER CENTRE
  1FB57 1t BLOCK DIAGONAL UPPER MIDDLE t TO UPPER CENTRE;9r;4LOWER MIDDLE t TO UPPER CENTRE;9r
  1FB5B 5t TO UPPER CENTRE;5MIDDLE t TO UPPER MIDDLE r;5CENTRE TO LOWER MIDDLE r
  1FB5E 5t TO LOWER MIDDLE r;5CENTRE TO UPPER MIDDLE r;5t TO UPPER MIDDLE r;5CENTRE TO UPPER r
  1FB62 1r BLOCK DIAGONAL UPPER CENTRE TO UPPER MIDDLE r;5t TO UPPER MIDDLE r
  1FB64 5CENTRE TO LOWER MIDDLE r;5t TO LOWER MIDDLE r;5CENTRE TO LOWER r
  1FB67 5MIDDLE t TO LOWER MIDDLE r;1h r h LOWER TRIANGULAR m QUARTERS BLOCK
  1FB69 0t h LOWER h r TRIANGULAR m QUARTERS BLOCK;0UPPER h t h LOWER TRIANGULAR m QUARTERS BLOCK
  1FB6B 0t h UPPER h r TRIANGULAR m QUARTERS BLOCK;1TRIANGULAR ONE QUARTER BLOCK
  1FB6D 0UPPER TRIANGULAR ONE QUARTER BLOCK;0r TRIANGULAR ONE QUARTER BLOCK
  1FB6F 0LOWER TRIANGULAR ONE QUARTER BLOCK;0v ONE EIGHTH BLOCK-2;3BLOCK-3;3BLOCK-4;3BLOCK-5
  1FB74 3BLOCK-6;3BLOCK-7;0z ONE EIGHTH BLOCK-2;3BLOCK-3;3BLOCK-4;3BLOCK-5;3BLOCK-6;3BLOCK-7
  1FB7C 0t h LOWER ONE EIGHTH BLOCK;2UPPER ONE EIGHTH BLOCK;0r h UPPER ONE EIGHTH BLOCK
  1FB7F 2LOWER ONE EIGHTH BLOCK;0UPPER h LOWER ONE EIGHTH BLOCK;0z ONE EIGHTH BLOCK-1358
  1FB82 0UPPER ONE QUARTER BLOCK;1m EIGHTHS BLOCK;1FIVE EIGHTHS BLOCK;1m QUARTERS BLOCK
  1FB86 1SEVEN EIGHTHS BLOCK;0r ONE QUARTER BLOCK;1m EIGHTHS BLOCK;1FIVE EIGHTHS BLOCK
  1FB8A 1m QUARTERS BLOCK;1SEVEN EIGHTHS BLOCK;0t HALF MEDIUM SHADE;0r HALF MEDIUM SHADE
  1FB8E 0UPPER HALF MEDIUM SHADE;0LOWER HALF MEDIUM SHADE;0INVERSE MEDIUM SHADE
  1FB91 0UPPER HALF BLOCK h LOWER HALF INVERSE MEDIUM SHADE
  1FB92 2INVERSE MEDIUM SHADE h LOWER HALF BLOCK
  1FB94 0t HALF INVERSE MEDIUM SHADE h r HALF BLOCK;0CHECKER BOARD FILL
  1FB96 0INVERSE CHECKER BOARD FILL;0HEAVY z FILL;0UPPER t TO LOWER r FILL;1r TO LOWER t FILL
  1FB9A 1h LOWER TRIANGULAR HALF BLOCK;0t h r TRIANGULAR HALF BLOCK
  1FB9C 0UPPER t TRIANGULAR MEDIUM SHADE;1r TRIANGULAR MEDIUM SHADE
  1FB9E 0LOWER r TRIANGULAR MEDIUM SHADE;1t TRIANGULAR MEDIUM SHADE
  1FBA0 0BOX DRAWINGS LIGHT DIAGONAL UPPER CENTRE TO MIDDLE t;8r;4MIDDLE t TO LOWER CENTRE
  1FBA3 5r TO LOWER CENTRE;4UPPER CENTRE TO MIDDLE t TO LOWER CENTRE;8r TO LOWER CENTRE
  1FBA6 4MIDDLE t TO LOWER CENTRE TO MIDDLE r;7UPPER CENTRE TO MIDDLE r
  1FBA8 4UPPER CENTRE TO MIDDLE t h MIDDLE r TO LOWER CENTRE;8r h MIDDLE t TO LOWER CENTRE
  1FBAA 9TO LOWER CENTRE TO MIDDLE t;8t TO LOWER CENTRE TO MIDDLE r
  1FBAC 4MIDDLE t TO UPPER CENTRE TO MIDDLE r TO LOWER CENTRE
  1FBAD 5r TO UPPER CENTRE TO MIDDLE t TO LOWER CENTRE;4DIAMOND;3z w v q;0ARROWHEAD-SHAPED POINTER
  1FBB1 0INVERSE CHECK MARK;0t HALF RUNNING MAN;0r HALF RUNNING MAN;0INVERSE DOWNWARDS a w TIP j
  1FBB5 0j a h UPPER h LOWER ONE EIGHTH BLOCK;0g a h UPPER h LOWER ONE EIGHTH BLOCK
  1FBB7 0DOWNWARDS a h r ONE EIGHTH BLOCK;0UPWARDS a h r ONE EIGHTH BLOCK;0t HALF FOLDER
  1FBBA 0r HALF FOLDER;0VOIDED GREEK CROSS;0r OPEN SQUARED DOT;0NEGATIVE DIAGONAL CROSS
  1FBBE 2MIDDLE r TO LOWER CENTRE;2DIAMOND;0x HEAVY SALTIRE w ROUNDED CORNERS
  1FBC1 0t THIRD x r POINTING INDEX;0MIDDLE THIRD x r POINTING INDEX;0r THIRD x r POINTING INDEX
  1FBC4 0NEGATIVE SQUARED QUESTION MARK;0STICK FIGURE;2w ARMS RAISED;2LEANING t;3r;2w DRESS
  1FBCA 0x UP-POINTING CHEVRON
  1FBF0 0SEGMENTED DIGIT ZERO;2ONE;2TWO;2m;2FOUR;2FIVE;2SIX;2SEVEN;2EIGHT;2NINE
  E0001 0LANGUAGE TAG
  E0020 0TAG SPACE;1EXCLAMATION MARK;1QUOTATION MARK;1NUMBER i;1DOLLAR i;1PERCENT i;1AMPERSAND
  E0027 1APOSTROPHE;1t PARENTHESIS;1r PARENTHESIS;1ASTERISK;1PLUS i;1COMMA;1HYPHEN-MINUS
  E002E 1FULL STOP;1SOLIDUS;1DIGIT ZERO;2ONE;2TWO;2m;2FOUR;2FIVE;2SIX;2SEVEN;2EIGHT;2NINE;1COLON
  E003B 1SEMICOLON;1LESS-THAN i;1EQUALS i;1GREATER-THAN i;1QUESTION MARK;1COMMERCIAL AT
  E0041 1LATIN c l A;4B;4C;4D;4E;4F;4G;4H;4I;4J;4K;4L;4M;4N;4O;4P;4Q;4R;4S;4T;4U;4V;4W;4X;4Y;4Z
  E005B 1t SQUARE BRACKET;1REVERSE SOLIDUS;1r SQUARE BRACKET;1CIRCUMFLEX ACCENT;1LOW LINE
  E0060 1GRAVE ACCENT;1LATIN s l A;4B;4C;4D;4E;4F;4G;4H;4I;4J;4K;4L;4M;4N;4O;4P;4Q;4R;4S;4T;4U;4V
  E0077 4W;4X;4Y;4Z;1t CURLY BRACKET;1v LINE;1r CURLY BRACKET;1TILDE;0CANCEL TAG
  E0100 0VARIATION SELECTOR-17;1SELECTOR-18;1SELECTOR-19;1SELECTOR-20;1SELECTOR-21;1SELECTOR-22
  E0106 1SELECTOR-23;1SELECTOR-24;1SELECTOR-25;1SELECTOR-26;1SELECTOR-27;1SELECTOR-28;1SELECTOR-29
  E010D 1SELECTOR-30;1SELECTOR-31;1SELECTOR-32;1SELECTOR-33;1SELECTOR-34;1SELECTOR-35;1SELECTOR-36
  E0114 1SELECTOR-37;1SELECTOR-38;1SELECTOR-39;1SELECTOR-40;1SELECTOR-41;1SELECTOR-42;1SELECTOR-43
  E011B 1SELECTOR-44;1SELECTOR-45;1SELECTOR-46;1SELECTOR-47;1SELECTOR-48;1SELECTOR-49;1SELECTOR-50
  E0122 1SELECTOR-51;1SELECTOR-52;1SELECTOR-53;1SELECTOR-54;1SELECTOR-55;1SELECTOR-56;1SELECTOR-57
  E0129 1SELECTOR-58;1SELECTOR-59;1SELECTOR-60;1SELECTOR-61;1SELECTOR-62;1SELECTOR-63;1SELECTOR-64
  E0130 1SELECTOR-65;1SELECTOR-66;1SELECTOR-67;1SELECTOR-68;1SELECTOR-69;1SELECTOR-70;1SELECTOR-71
  E0137 1SELECTOR-72;1SELECTOR-73;1SELECTOR-74;1SELECTOR-75;1SELECTOR-76;1SELECTOR-77;1SELECTOR-78
  E013E 1SELECTOR-79;1SELECTOR-80;1SELECTOR-81;1SELECTOR-82;1SELECTOR-83;1SELECTOR-84;1SELECTOR-85
  E0145 1SELECTOR-86;1SELECTOR-87;1SELECTOR-88;1SELECTOR-89;1SELECTOR-90;1SELECTOR-91;1SELECTOR-92
  E014C 1SELECTOR-93;1SELECTOR-94;1SELECTOR-95;1SELECTOR-96;1SELECTOR-97;1SELECTOR-98;1SELECTOR-99
  E0153 1SELECTOR-100;1SELECTOR-101;1SELECTOR-102;1SELECTOR-103;1SELECTOR-104;1SELECTOR-105
  E0159 1SELECTOR-106;1SELECTOR-107;1SELECTOR-108;1SELECTOR-109;1SELECTOR-110;1SELECTOR-111
  E015F 1SELECTOR-112;1SELECTOR-113;1SELECTOR-114;1SELECTOR-115;1SELECTOR-116;1SELECTOR-117
  E0165 1SELECTOR-118;1SELECTOR-119;1SELECTOR-120;1SELECTOR-121;1SELECTOR-122;1SELECTOR-123
  E016B 1SELECTOR-124;1SELECTOR-125;1SELECTOR-126;1SELECTOR-127;1SELECTOR-128;1SELECTOR-129
  E0171 1SELECTOR-130;1SELECTOR-131;1SELECTOR-132;1SELECTOR-133;1SELECTOR-134;1SELECTOR-135
  E0177 1SELECTOR-136;1SELECTOR-137;1SELECTOR-138;1SELECTOR-139;1SELECTOR-140;1SELECTOR-141
  E017D 1SELECTOR-142;1SELECTOR-143;1SELECTOR-144;1SELECTOR-145;1SELECTOR-146;1SELECTOR-147
  E0183 1SELECTOR-148;1SELECTOR-149;1SELECTOR-150;1SELECTOR-151;1SELECTOR-152;1SELECTOR-153
  E0189 1SELECTOR-154;1SELECTOR-155;1SELECTOR-156;1SELECTOR-157;1SELECTOR-158;1SELECTOR-159
  E018F 1SELECTOR-160;1SELECTOR-161;1SELECTOR-162;1SELECTOR-163;1SELECTOR-164;1SELECTOR-165
  E0195 1SELECTOR-166;1SELECTOR-167;1SELECTOR-168;1SELECTOR-169;1SELECTOR-170;1SELECTOR-171
  E019B 1SELECTOR-172;1SELECTOR-173;1SELECTOR-174;1SELECTOR-175;1SELECTOR-176;1SELECTOR-177
  E01A1 1SELECTOR-178;1SELECTOR-179;1SELECTOR-180;1SELECTOR-181;1SELECTOR-182;1SELECTOR-183
  E01A7 1SELECTOR-184;1SELECTOR-185;1SELECTOR-186;1SELECTOR-187;1SELECTOR-188;1SELECTOR-189
  E01AD 1SELECTOR-190;1SELECTOR-191;1SELECTOR-192;1SELECTOR-193;1SELECTOR-194;1SELECTOR-195
  E01B3 1SELECTOR-196;1SELECTOR-197;1SELECTOR-198;1SELECTOR-199;1SELECTOR-200;1SELECTOR-201
  E01B9 1SELECTOR-202;1SELECTOR-203;1SELECTOR-204;1SELECTOR-205;1SELECTOR-206;1SELECTOR-207
  E01BF 1SELECTOR-208;1SELECTOR-209;1SELECTOR-210;1SELECTOR-211;1SELECTOR-212;1SELECTOR-213
  E01C5 1SELECTOR-214;1SELECTOR-215;1SELECTOR-216;1SELECTOR-217;1SELECTOR-218;1SELECTOR-219
  E01CB 1SELECTOR-220;1SELECTOR-221;1SELECTOR-222;1SELECTOR-223;1SELECTOR-224;1SELECTOR-225
  E01D1 1SELECTOR-226;1SELECTOR-227;1SELECTOR-228;1SELECTOR-229;1SELECTOR-230;1SELECTOR-231
  E01D7 1SELECTOR-232;1SELECTOR-233;1SELECTOR-234;1SELECTOR-235;1SELECTOR-236;1SELECTOR-237
  E01DD 1SELECTOR-238;1SELECTOR-239;1SELECTOR-240;1SELECTOR-241;1SELECTOR-242;1SELECTOR-243
  E01E3 1SELECTOR-244;1SELECTOR-245;1SELECTOR-246;1SELECTOR-247;1SELECTOR-248;1SELECTOR-249
  E01E9 1SELECTOR-250;1SELECTOR-251;1SELECTOR-252;1SELECTOR-253;1SELECTOR-254;1SELECTOR-255
  E01EF 1SELECTOR-256"

end Dialect.Text.CharName
