namespace Dialect.Text.CharName

-- Abbreviations, names of controls, and corrections of names.
def aliases : String := "
  0000 0NUL;0SOH;0START OF TEXT;0END OF TEXT;2TRANSMISSION;0ENQ;0ACK;0ALERT;0BACKSPACE
  0009 0CHARACTER TABULATION;0END OF LINE;0LINE TABULATION;0FF;0CARRIAGE RETURN;0LOCKING-SHIFT ONE
  000F 1ZERO;0DATA LINK ESCAPE;0DC1;0DC2;0DC3;0DC4;0NAK;0SYN;0END OF TRANSMISSION BLOCK;0CAN
  0019 0END OF MEDIUM;0SUB;0ESC;0FILE SEPARATOR;0GROUP SEPARATOR;0INFORMATION SEPARATOR TWO;2ONE
  0020 0SP
  007F 0DEL;0PAD;0HIGH OCTET PRESET;0BPH;0NBH;0IND;0NEL;0SSA;0END OF SELECTED AREA
  0088 0CHARACTER TABULATION SET;2w JUSTIFICATION;0LINE TABULATION SET;0PARTIAL LINE DOWN
  008C 2BACKWARD;0REVERSE INDEX;0SINGLE SHIFT TWO;2m;0DCS;0PRIVATE USE ONE;2TWO
  0093 0SET TRANSMIT STATE;0CANCEL CHARACTER;0MESSAGE WAITING;0SPA;0END OF GUARDED AREA;0SOS;0SGC
  009A 0SCI;0CONTROL SEQUENCE INTRODUCER;0ST;0OPERATING SYSTEM COMMAND;0PM;0APC;0NBSP
  00AD 0SHY
  01A2 0LATIN c l GHA;1s l GHA
  034F 0CGJ
  061C 0ALM
  0709 0SYRIAC SUBLINEAR COLON SKEWED t
  0CDE 0KANNADA l LLLA
  0E9D 0LAO l FO FON
  0E9F 3FAY
  0EA3 2RO
  0EA5 2LO
  0FD0 0TIBETAN MARK BKA- SHOG GI MGO RGYAN
  11EC 0HANGUL JONGSEONG YESIEUNG-KIYEOK;2YESIEUNG-SSANGKIYEOK;2SSANGYESIEUNG;2YESIEUNG-KHIEUKH
  180B 0FVS1;0FVS2;0FVS3;0MVS;0FVS4
  200B 0ZWSP;0ZWNJ;0ZWJ;0LRM;0RLM
  202A 0LRE;0RLE;0PDF;0LRO;0RLO;0NNBSP
  205F 0MMSP;0WJ
  2066 0LRI;0RLI;0FSI;0PDI
  2118 0WEIERSTRASS ELLIPTIC FUNCTION
  2448 0MICR ON US y;1DASH y
  2B7A 0j p a w d v q
  2B7C 0g p a w d v q
  A015 0YI SYLLABLE ITERATION MARK
  AA6E 0MYANMAR l KHAMTI LLA
  FE00 0VS1;0VS2;0VS3;0VS4;0VS5;0VS6;0VS7;0VS8;0VS9;0VS10;0VS11;0VS12;0VS13;0VS14;0VS15;0VS16
  FE18 0PRESENTATION f FOR v r x LENTICULAR BRACKET
  FEFF 0BOM
  122D4 0CUNEIFORM i NU11 TENU;3OVER NU11 BUR OVER BUR
  16E56 0MEDEFAIDRIN c l H;3NG
  16E76 1s l H;3NG
  1B001 0HENTAIGANA l E-1
  1D0C5 0BYZANTINE MUSICAL y FTHORA SKLIRON CHROMA VASIS
  E0100 0VS17;0VS18;0VS19;0VS20;0VS21;0VS22;0VS23;0VS24;0VS25;0VS26;0VS27;0VS28;0VS29;0VS30;0VS31
  E010F 0VS32;0VS33;0VS34;0VS35;0VS36;0VS37;0VS38;0VS39;0VS40;0VS41;0VS42;0VS43;0VS44;0VS45;0VS46
  E011E 0VS47;0VS48;0VS49;0VS50;0VS51;0VS52;0VS53;0VS54;0VS55;0VS56;0VS57;0VS58;0VS59;0VS60;0VS61
  E012D 0VS62;0VS63;0VS64;0VS65;0VS66;0VS67;0VS68;0VS69;0VS70;0VS71;0VS72;0VS73;0VS74;0VS75;0VS76
  E013C 0VS77;0VS78;0VS79;0VS80;0VS81;0VS82;0VS83;0VS84;0VS85;0VS86;0VS87;0VS88;0VS89;0VS90;0VS91
  E014B 0VS92;0VS93;0VS94;0VS95;0VS96;0VS97;0VS98;0VS99;0VS100;0VS101;0VS102;0VS103;0VS104;0VS105
  E0159 0VS106;0VS107;0VS108;0VS109;0VS110;0VS111;0VS112;0VS113;0VS114;0VS115;0VS116;0VS117;0VS118
  E0166 0VS119;0VS120;0VS121;0VS122;0VS123;0VS124;0VS125;0VS126;0VS127;0VS128;0VS129;0VS130;0VS131
  E0173 0VS132;0VS133;0VS134;0VS135;0VS136;0VS137;0VS138;0VS139;0VS140;0VS141;0VS142;0VS143;0VS144
  E0180 0VS145;0VS146;0VS147;0VS148;0VS149;0VS150;0VS151;0VS152;0VS153;0VS154;0VS155;0VS156;0VS157
  E018D 0VS158;0VS159;0VS160;0VS161;0VS162;0VS163;0VS164;0VS165;0VS166;0VS167;0VS168;0VS169;0VS170
  E019A 0VS171;0VS172;0VS173;0VS174;0VS175;0VS176;0VS177;0VS178;0VS179;0VS180;0VS181;0VS182;0VS183
  E01A7 0VS184;0VS185;0VS186;0VS187;0VS188;0VS189;0VS190;0VS191;0VS192;0VS193;0VS194;0VS195;0VS196
  E01B4 0VS197;0VS198;0VS199;0VS200;0VS201;0VS202;0VS203;0VS204;0VS205;0VS206;0VS207;0VS208;0VS209
  E01C1 0VS210;0VS211;0VS212;0VS213;0VS214;0VS215;0VS216;0VS217;0VS218;0VS219;0VS220;0VS221;0VS222
  E01CE 0VS223;0VS224;0VS225;0VS226;0VS227;0VS228;0VS229;0VS230;0VS231;0VS232;0VS233;0VS234;0VS235
  E01DB 0VS236;0VS237;0VS238;0VS239;0VS240;0VS241;0VS242;0VS243;0VS244;0VS245;0VS246;0VS247;0VS248
  E01E8 0VS249;0VS250;0VS251;0VS252;0VS253;0VS254;0VS255;0VS256
  0000 0NULL;0START OF HEADING;0STX;0ETX;0EOT;0ENQUIRY;0ACKNOWLEDGE;0BEL;0BS;0z TABULATION;0EOL
  000B 0v TABULATION;0f FEED;0CR;0SHIFT OUT;1IN;0DLE;0DEVICE CONTROL ONE;2TWO;2m;2FOUR
  0015 0NEGATIVE ACKNOWLEDGE;0SYNCHRONOUS IDLE;0ETB;0CANCEL;0EOM;0SUBSTITUTE;0ESCAPE;0FS;0GS
  001E 0RECORD SEPARATOR;0UNIT SEPARATOR
  007F 0DELETE;0PADDING CHARACTER;0HOP;0BREAK PERMITTED HERE;0NO BREAK HERE;0INDEX;0NEXT LINE
  0086 0START OF SELECTED AREA;0ESA;0z TABULATION SET;2w JUSTIFICATION;0v TABULATION SET
  008B 0PARTIAL LINE FORWARD;2UP;0REVERSE LINE FEED;0SINGLE-SHIFT-2;0SINGLE-SHIFT-3
  0090 0DEVICE CONTROL STRING;0PRIVATE USE-1;1USE-2;0STS;0CCH;0MW;0START OF GUARDED AREA
  0097 0END OF PROTECTED AREA;0START OF STRING;0SINGLE GRAPHIC CHARACTER INTRODUCER
  009A 1CHARACTER INTRODUCER;0CSI;0STRING TERMINATOR;0OSC;0PRIVACY MESSAGE
  009F 0APPLICATION PROGRAM COMMAND
  FEFF 0BYTE ORDER MARK
  0009 0HT;0LF;0VT
  000E 0SO;0SI
  001C 0INFORMATION SEPARATOR FOUR;2m;0RS;0US
  0088 0HTS;0HTJ;0VTS;0PLD;0PLU;0RI;0SS2;0SS3
  0091 0PU1;0PU2
  0096 0START OF PROTECTED AREA;0EPA
  FEFF 0ZWNBSP
  0009 0TAB;0LINE FEED
  000A 0NEW LINE
  000A 0NL"

end Dialect.Text.CharName
