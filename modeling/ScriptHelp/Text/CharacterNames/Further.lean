namespace ScriptHelp.Text.CharacterNames

def further : String :=
  "+0;0NUL;+0;0NULL;+1;0SOH;+1;0START OF HEADING;+2;0START OF TEXT;+2;0STX;+3;0END OF TEXT;+3;0ETX;+4;
0END OF TRANSMISSION;+4;0EOT;+5;0ENQ;+5;0ENQUIRY;+6;0ACK;+6;0ACKNOWLEDGE;+7;0ALERT;+7;0BEL;+8;
0BACKSPACE;+8;0BS;+9;0CHARACTER TABULATION;+9;0HORIZONTAL TABULATION;+9;0HT;+9;0TAB;+A;
0END OF LINE;+A;0EOL;+A;0LF;+A;0LINE FEED;+A;0NEW LINE;+A;0NL;+B;0LINE TABULATION;+B;
0VERTICAL TABULATION;+B;0VT;+C;0FF;+C;0FORM FEED;+D;0CARRIAGE RETURN;+D;0CR;+E;0LOCKING-SHIFT ONE;
+E;0SHIFT OUT;+E;0SO;+F;0LOCKING-SHIFT ZERO;+F;0SHIFT IN;+F;0SI;+10;0DATA LINK ESCAPE;+10;0DLE;+11;
0DC1;+11;0DEVICE CONTROL ONE;+12;0DC2;+12;0DEVICE CONTROL TWO;+13;0DC3;+13;0DEVICE CONTROL THREE;
+14;0DC4;+14;0DEVICE CONTROL FOUR;+15;0NAK;+15;0NEGATIVE ACKNOWLEDGE;+16;0SYN;+16;
0SYNCHRONOUS IDLE;+17;0END OF TRANSMISSION BLOCK;+17;0ETB;+18;0CAN;+18;0CANCEL;+19;0END OF MEDIUM;
+19;0EOM;+1A;0SUB;+1A;0SUBSTITUTE;+1B;0ESC;+1B;0ESCAPE;+1C;0FILE SEPARATOR;+1C;0FS;+1C;
0INFORMATION SEPARATOR FOUR;+1D;0GROUP SEPARATOR;+1D;0GS;+1D;0INFORMATION SEPARATOR THREE;+1E;
0INFORMATION SEPARATOR TWO;+1E;0RECORD SEPARATOR;+1E;0RS;+1F;0INFORMATION SEPARATOR ONE;+1F;
0UNIT SEPARATOR;+1F;0US;+20;0SP;+7F;0DEL;+7F;0DELETE;+80;0PAD;+80;0PADDING CHARACTER;+81;
0HIGH OCTET PRESET;+81;0HOP;+82;0BPH;+82;0BREAK PERMITTED HERE;+83;0NBH;+83;0NO BREAK HERE;+84;
0IND;+84;0INDEX;+85;0NEL;+85;0NEXT LINE;+86;0SSA;+86;0START OF SELECTED AREA;+87;
0END OF SELECTED AREA;+87;0ESA;+88;0CHARACTER TABULATION SET;+88;0HORIZONTAL TABULATION SET;+88;
0HTS;+89;0CHARACTER TABULATION WITH JUSTIFICATION;+89;0HORIZONTAL TABULATION WITH JUSTIFICATION;
+89;0HTJ;+8A;0LINE TABULATION SET;+8A;0VERTICAL TABULATION SET;+8A;0VTS;+8B;0PARTIAL LINE DOWN;+8B;
0PARTIAL LINE FORWARD;+8B;0PLD;+8C;0PARTIAL LINE BACKWARD;+8C;0PARTIAL LINE UP;+8C;0PLU;+8D;
0REVERSE INDEX;+8D;0REVERSE LINE FEED;+8D;0RI;+8E;0SINGLE SHIFT TWO;+8E;0SINGLE-SHIFT-2;+8E;0SS2;
+8F;0SINGLE SHIFT THREE;+8F;0SINGLE-SHIFT-3;+8F;0SS3;+90;0DCS;+90;0DEVICE CONTROL STRING;+91;
0PRIVATE USE ONE;+91;0PRIVATE USE-1;+91;0PU1;+92;0PRIVATE USE TWO;+92;0PRIVATE USE-2;+92;0PU2;+93;
0SET TRANSMIT STATE;+93;0STS;+94;0CANCEL CHARACTER;+94;0CCH;+95;0MESSAGE WAITING;+95;0MW;+96;0SPA;
+96;0START OF GUARDED AREA;+96;0START OF PROTECTED AREA;+97;0END OF GUARDED AREA;+97;
0END OF PROTECTED AREA;+97;0EPA;+98;0SOS;+98;0START OF STRING;+99;0SGC;+99;
0SINGLE GRAPHIC CHARACTER INTRODUCER;+9A;0SCI;+9A;0SINGLE CHARACTER INTRODUCER;+9B;
0CONTROL SEQUENCE INTRODUCER;+9B;0CSI;+9C;0ST;+9C;0STRING TERMINATOR;+9D;0OPERATING SYSTEM COMMAND;
+9D;0OSC;+9E;0PM;+9E;0PRIVACY MESSAGE;+9F;0APC;+9F;0APPLICATION PROGRAM COMMAND;+A0;0NBSP;+AD;0SHY;
+1A2;0LATIN CAPITAL LETTER GHA;+1A3;0LATIN SMALL LETTER GHA;+34F;0CGJ;+61C;0ALM;+709;
0SYRIAC SUBLINEAR COLON SKEWED LEFT;+CDE;0KANNADA LETTER LLLA;+E9D;0LAO LETTER FO FON;+E9F;
0LAO LETTER FO FAY;+EA3;0LAO LETTER RO;+EA5;0LAO LETTER LO;+11EC;0HANGUL JONGSEONG YESIEUNG-KIYEOK;
+11ED;0HANGUL JONGSEONG YESIEUNG-SSANGKIYEOK;+11EE;0HANGUL JONGSEONG SSANGYESIEUNG;+11EF;
0HANGUL JONGSEONG YESIEUNG-KHIEUKH;+180B;0FVS1;+180C;0FVS2;+180D;0FVS3;+180E;0MVS;+180F;0FVS4;
+200B;0ZWSP;+200C;0ZWNJ;+200D;0ZWJ;+200E;0LRM;+200F;0RLM;+202A;0LRE;+202B;0RLE;+202C;0PDF;+202D;
0LRO;+202E;0RLO;+202F;0NNBSP;+205F;0MMSP;+2060;0WJ;+2066;0LRI;+2067;0RLI;+2068;0FSI;+2069;0PDI;
+2118;0WEIERSTRASS ELLIPTIC FUNCTION;+2448;0MICR ON US SYMBOL;+2449;0MICR DASH SYMBOL;+2B7A;
0LEFTWARDS TRIANGLE-HEADED ARROW WITH DOUBLE VERTICAL STROKE;+2B7C;
0RIGHTWARDS TRIANGLE-HEADED ARROW WITH DOUBLE VERTICAL STROKE;+A015;0YI SYLLABLE ITERATION MARK;
+FE18;0PRESENTATION FORM FOR VERTICAL RIGHT WHITE LENTICULAR BRACKET;+FEFF;0BOM;+FEFF;
0BYTE ORDER MARK;+FEFF;0ZWNBSP;+122D4;0CUNEIFORM SIGN NU11 TENU;+122D5;
0CUNEIFORM SIGN NU11 OVER NU11 BUR OVER BUR;+16E56;0MEDEFAIDRIN CAPITAL LETTER H;+16E57;
0MEDEFAIDRIN CAPITAL LETTER NG;+16E76;0MEDEFAIDRIN SMALL LETTER H;+16E77;
0MEDEFAIDRIN SMALL LETTER NG;+1B001;0HENTAIGANA LETTER E-1;+1D0C5;
0BYZANTINE MUSICAL SYMBOL FTHORA SKLIRON CHROMA VASIS"

end ScriptHelp.Text.CharacterNames
