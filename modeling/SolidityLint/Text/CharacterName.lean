import SolidityLint.Text.CodeRange

/-!
# Names of characters

Every character that has a name can be found by it, and by its aliases if it has any, in letters of
any case. Names that follow a scheme are computed: syllables of Hangul from the names of their
letters, and ideographs from their code points.
-/

namespace SolidityLint.Text

/-! ## Computed names -/

def dropStart? (start text : List Char) : Option (List Char) :=
  if start.isPrefixOf text then some (text.drop start.length) else none

def syllableStarts : List String :=
  ["G", "GG", "N", "D", "DD", "R", "M", "B", "BB", "S", "SS", "", "J", "JJ", "C", "K", "T", "P",
    "H"]

def syllableMiddles : List String :=
  ["A", "AE", "YA", "YAE", "EO", "E", "YEO", "YE", "O", "WA", "WAE", "OE", "YO", "U", "WEO", "WE",
    "WI", "YU", "EU", "YI", "I"]

def syllableEnds : List String :=
  ["", "G", "GG", "GS", "N", "NJ", "NH", "D", "L", "LG", "LM", "LB", "LS", "LT", "LP", "LH", "M",
    "B", "BS", "S", "SS", "NG", "J", "C", "K", "T", "P", "H"]

/-- The longest of several letters that a text starts with: its index and what follows it. -/
def longestStart? (text : List Char) : Nat → List String → Option (Nat × List Char)
  | _, [] => none
  | index, letter :: letters =>
    let other := longestStart? text (index + 1) letters
    match dropStart? letter.toList text, other with
    | none, _ => other
    | some rest, none => some (index, rest)
    | some rest, some (place, further) =>
      if further.length < rest.length then some (place, further) else some (index, rest)

def syllableNamed? (name : List Char) : Option Nat := do
  let text ← dropStart? "HANGUL SYLLABLE ".toList name
  let (first, text) ← longestStart? text 0 syllableStarts
  let (middle, text) ← longestStart? text 0 syllableMiddles
  let (last, text) ← longestStart? text 0 syllableEnds
  if text.isEmpty then some (0xac00 + (first * 21 + middle) * 28 + last) else none

def capitalHexDigit? (c : Char) : Option Nat :=
  if c.isDigit then some (c.toNat - 48)
  else if 'A' ≤ c && c ≤ 'F' then some (c.toNat - 55)
  else none

def ofHexDigits? (digits : List Char) : Option Nat := do
  return (← digits.mapM capitalHexDigit?).foldl (16 * · + ·) 0

def unifiedIdeographs : List CodeRange :=
  [(0x3400, 0x4dbf), (0x4e00, 0x9fff), (0x20000, 0x2a6df), (0x2a700, 0x2b738), (0x2b740, 0x2b81d),
    (0x2b820, 0x2cea1), (0x2ceb0, 0x2ebe0), (0x30000, 0x3134a)]

/-- Ideographs are numbered with four or five digits, of which the first may be zero. -/
def ideographNamed? (name : List Char) : Option Nat := do
  let digits ← dropStart? "CJK UNIFIED IDEOGRAPH-".toList name
  let code ← ofHexDigits? digits
  if (digits.length == 4 || digits.length == 5) && inRanges unifiedIdeographs code then some code
  else none

def numberedNames : List (String × List CodeRange) :=
  [("CJK COMPATIBILITY IDEOGRAPH-", [(0xf900, 0xfa6d), (0xfa70, 0xfad9), (0x2f800, 0x2fa1d)]),
    ("KHITAN SMALL SCRIPT CHARACTER-", [(0x18b00, 0x18cd5)]),
    ("NUSHU CHARACTER-", [(0x1b170, 0x1b2fb)])]

def numberedNamed? (name : List Char) : Option Nat :=
  numberedNames.findSome? fun (start, ranges) => do
    let digits ← dropStart? start.toList name
    let code ← ofHexDigits? digits
    if digits.head? != some '0' && inRanges ranges code then some code else none

/-! ## The table of names

The names are in the order of their characters. Each is written as the number of characters that it
shares with the name before, in small letters as digits of base 26, and the characters behind them.
A plus sign and a number before a name tell how far its character is from the one before, if it is
not the next one. -/

inductive NameField
  | distance
  | shared
  | fresh

/-- A character and its name, and what was read of the next one. -/
structure NameCursor where
  code : Int := -1
  name : List Char := []
  field : NameField := .fresh
  distance : Nat := 0
  shared : Nat := 0
  /-- Latest first. -/
  fresh : List Char := []

namespace NameCursor

def next (cursor : NameCursor) : NameCursor where
  code := cursor.code + cursor.distance
  name := cursor.name.take cursor.shared ++ cursor.fresh.reverse
  distance := 1

def read (cursor : NameCursor) (c : Char) : NameCursor :=
  if c == '+' then { cursor.next with field := .distance, distance := 0 }
  else if c.isLower then
    let digit := c.toNat - 97
    match cursor.field with
    | .shared => { cursor with shared := 26 * cursor.shared + digit }
    | .distance => { cursor with field := .shared, shared := digit }
    | .fresh => { cursor.next with field := .shared, shared := digit }
  else match cursor.field with
    | .distance => { cursor with distance := 10 * cursor.distance + (c.toNat - 48) }
    | _ => { cursor with field := .fresh, fresh := c :: cursor.fresh }

def find? (name : List Char) : NameCursor → List Char → Option Nat
  | cursor, [] => if cursor.next.name = name then some cursor.next.code.toNat else none
  | cursor, c :: rest =>
    if cursor.name = name then some cursor.code.toNat
    else find? name (cursor.read c) rest

end NameCursor

set_option maxRecDepth 20000

def nameTable : List String :=
  ["aNUL+0dLaSOH+0bTART OF HEADINGjTEXT+0cXaEND OF TEXT+0bTXbND OF TRANSMISSION+0bOTbNQ+0dUIRY",
    "aACK+0dNOWLEDGEbLERT+0aBELbACKSPACE+0bSaCHARACTER TABULATION+0aHORIZONTAL TABULATION+0bT",
    "+0aTABaEND OF LINE+0bOL+0aLF+0bINE FEED+0aNEW LINE+0bLaLINE TABULATION+0aVERTICAL TABULATION",
    "+0bTaFF+0bORM FEEDaCARRIAGE RETURN+0bRaLOCKING-SHIFT ONE+0aSHIFT OUT+0bOaLOCKING-SHIFT ZERO",
    "+0aSHIFT IN+0bIaDATA LINK ESCAPE+0bLEbC1+0bEVICE CONTROL ONEbC2+0bEVICE CONTROL TWObC3",
    "+0bEVICE CONTROL THREEbC4+0bEVICE CONTROL FOURaNAK+0bEGATIVE ACKNOWLEDGEaSYN+0dCHRONOUS IDLE",
    "aEND OF TRANSMISSION BLOCK+0bTBaCAN+0dCELaEND OF MEDIUM+0bOMaSUB+0dSTITUTEaESC+0dAPE",
    "aFILE SEPARATOR+0bS+0aINFORMATION SEPARATOR FOURaGROUP SEPARATOR+0bS",
    "+0aINFORMATION SEPARATOR THREExWO+0aRECORD SEPARATOR+0bSaINFORMATION SEPARATOR ONE",
    "+0aUNIT SEPARATOR+0bSaSP+0cACEaEXCLAMATION MARKaQUOTATION MARKaNUMBER SIGNaDOLLAR SIGN",
    "aPERCENT SIGNaAMPERSANDbPOSTROPHEaLEFT PARENTHESISaRIGHT PARENTHESISaASTERISKaPLUS SIGNaCOMMA",
    "aHYPHEN-MINUSaFULL STOPaSOLIDUSaDIGIT ZEROgONEgTWOhHREEgFOURhIVEgSIXhEVENgEIGHTgNINEaCOLON",
    "aSEMICOLONaLESS-THAN SIGNaEQUALS SIGNaGREATER-THAN SIGNaQUESTION MARKaCOMMERCIAL AT",
    "aLATIN CAPITAL LETTER AvBvCvDvEvFvGvHvIvJvKvLvMvNvOvPvQvRvSvTvUvVvWvXvYvZbEFT SQUARE BRACKET",
    "aREVERSE SOLIDUSbIGHT SQUARE BRACKETaCIRCUMFLEX ACCENTaLOW LINEaGRAVE ACCENT",
    "aLATIN SMALL LETTER AtBtCtDtEtFtGtHtItJtKtLtMtNtOtPtQtRtStTtUtVtWtXtYtZbEFT CURLY BRACKET",
    "aVERTICAL LINEaRIGHT CURLY BRACKETaTILDEaDEL+0dETEaPAD+0dDING CHARACTERaHIGH OCTET PRESET",
    "+0bOPaBPH+0bREAK PERMITTED HEREaNBH+0bO BREAK HEREaIND+0dEXaNEL+0cXT LINEaSSA",
    "+0bTART OF SELECTED AREAaEND OF SELECTED AREA+0bSAaCHARACTER TABULATION SET",
    "+0aHORIZONTAL TABULATION SET+0bTSaCHARACTER TABULATION WITH JUSTIFICATION",
    "+0aHORIZONTAL TABULATION WITH JUSTIFICATION+0bTJaLINE TABULATION SET",
    "+0aVERTICAL TABULATION SET+0bTSaPARTIAL LINE DOWN+0nFORWARD+0bLDbARTIAL LINE BACKWARD+0nUP",
    "+0bLUaREVERSE INDEX+0iLINE FEED+0bIaSINGLE SHIFT TWO+0g-SHIFT-2+0bS2bINGLE SHIFT THREE",
    "+0g-SHIFT-3+0bS3aDCS+0bEVICE CONTROL STRINGaPRIVATE USE ONE+0l-1+0bU1bRIVATE USE TWO+0l-2",
    "+0bU2aSET TRANSMIT STATE+0bTSaCANCEL CHARACTER+0bCHaMESSAGE WAITING+0bWaSPA",
    "+0bTART OF GUARDED AREA+0jPROTECTED AREAaEND OF GUARDED AREA+0hPROTECTED AREA+0bPAaSOS",
    "+0bTART OF STRINGbGC+0bINGLE GRAPHIC CHARACTER INTRODUCERbCI+0bINGLE CHARACTER INTRODUCER",
    "aCONTROL SEQUENCE INTRODUCER+0bSIaST+0cRING TERMINATORaOPERATING SYSTEM COMMAND+0bSCaPM",
    "+0bRIVACY MESSAGEaAPC+0cPLICATION PROGRAM COMMANDaNBSP+0bO-BREAK SPACE",
    "aINVERTED EXCLAMATION MARKaCENT SIGNaPOUND SIGNaCURRENCY SIGNaYEN SIGNaBROKEN BAR",
    "aSECTION SIGNaDIAERESISaCOPYRIGHT SIGNaFEMININE ORDINAL INDICATOR",
    "aLEFT-POINTING DOUBLE ANGLE QUOTATION MARKaNOT SIGNaSHY+0bOFT HYPHENaREGISTERED SIGNaMACRON",
    "aDEGREE SIGNaPLUS-MINUS SIGNaSUPERSCRIPT TWOnHREEaACUTE ACCENTaMICRO SIGNaPILCROW SIGN",
    "aMIDDLE DOTaCEDILLAaSUPERSCRIPT ONEaMASCULINE ORDINAL INDICATOR",
    "aRIGHT-POINTING DOUBLE ANGLE QUOTATION MARKaVULGAR FRACTION ONE QUARTERuHALFqTHREE QUARTERS",
    "aINVERTED QUESTION MARKaLATIN CAPITAL LETTER A WITH GRAVEbcACUTEbcCIRCUMFLEXbcTILDE",
    "bcDIAERESISbcRING ABOVEwEvC WITH CEDILLAvE WITH GRAVEbcACUTEbcCIRCUMFLEXbcDIAERESIS",
    "vI WITH GRAVEbcACUTEbcCIRCUMFLEXbcDIAERESISvETHvN WITH TILDEvO WITH GRAVEbcACUTEbcCIRCUMFLEX",
    "bcTILDEbcDIAERESISaMULTIPLICATION SIGNaLATIN CAPITAL LETTER O WITH STROKEvU WITH GRAVEbcACUTE",
    "bcCIRCUMFLEXbcDIAERESISvY WITH ACUTEvTHORNgSMALL LETTER SHARP StA WITH GRAVEbaACUTE",
    "baCIRCUMFLEXbaTILDEbaDIAERESISbaRING ABOVEuEtC WITH CEDILLAtE WITH GRAVEbaACUTEbaCIRCUMFLEX",
    "baDIAERESIStI WITH GRAVEbaACUTEbaCIRCUMFLEXbaDIAERESIStETHtN WITH TILDEtO WITH GRAVEbaACUTE",
    "baCIRCUMFLEXbaTILDEbaDIAERESISaDIVISION SIGNaLATIN SMALL LETTER O WITH STROKEtU WITH GRAVE",
    "baACUTEbaCIRCUMFLEXbaDIAERESIStY WITH ACUTEtTHORNtY WITH DIAERESIS",
    "gCAPITAL LETTER A WITH MACRONgSMALL LETTER A WITH MACRONgCAPITAL LETTER A WITH BREVE",
    "gSMALL LETTER A WITH BREVEgCAPITAL LETTER A WITH OGONEKgSMALL LETTER A WITH OGONEK",
    "gCAPITAL LETTER C WITH ACUTEgSMALL LETTER C WITH ACUTEgCAPITAL LETTER C WITH CIRCUMFLEX",
    "gSMALL LETTER C WITH CIRCUMFLEXgCAPITAL LETTER C WITH DOT ABOVEgSMALL LETTER C WITH DOT ABOVE",
    "gCAPITAL LETTER C WITH CARONgSMALL LETTER C WITH CARONgCAPITAL LETTER D WITH CARON",
    "gSMALL LETTER D WITH CARONgCAPITAL LETTER D WITH STROKEgSMALL LETTER D WITH STROKE",
    "gCAPITAL LETTER E WITH MACRONgSMALL LETTER E WITH MACRONgCAPITAL LETTER E WITH BREVE",
    "gSMALL LETTER E WITH BREVEgCAPITAL LETTER E WITH DOT ABOVEgSMALL LETTER E WITH DOT ABOVE",
    "gCAPITAL LETTER E WITH OGONEKgSMALL LETTER E WITH OGONEKgCAPITAL LETTER E WITH CARON",
    "gSMALL LETTER E WITH CARONgCAPITAL LETTER G WITH CIRCUMFLEXgSMALL LETTER G WITH CIRCUMFLEX",
    "gCAPITAL LETTER G WITH BREVEgSMALL LETTER G WITH BREVEgCAPITAL LETTER G WITH DOT ABOVE",
    "gSMALL LETTER G WITH DOT ABOVEgCAPITAL LETTER G WITH CEDILLAgSMALL LETTER G WITH CEDILLA",
    "gCAPITAL LETTER H WITH CIRCUMFLEXgSMALL LETTER H WITH CIRCUMFLEXgCAPITAL LETTER H WITH STROKE",
    "gSMALL LETTER H WITH STROKEgCAPITAL LETTER I WITH TILDEgSMALL LETTER I WITH TILDE",
    "gCAPITAL LETTER I WITH MACRONgSMALL LETTER I WITH MACRONgCAPITAL LETTER I WITH BREVE",
    "gSMALL LETTER I WITH BREVEgCAPITAL LETTER I WITH OGONEKgSMALL LETTER I WITH OGONEK",
    "gCAPITAL LETTER I WITH DOT ABOVEgSMALL LETTER DOTLESS IgCAPITAL LIGATURE IJgSMALL LIGATURE IJ",
    "gCAPITAL LETTER J WITH CIRCUMFLEXgSMALL LETTER J WITH CIRCUMFLEX",
    "gCAPITAL LETTER K WITH CEDILLAgSMALL LETTER K WITH CEDILLAuRAgCAPITAL LETTER L WITH ACUTE",
    "gSMALL LETTER L WITH ACUTEgCAPITAL LETTER L WITH CEDILLAgSMALL LETTER L WITH CEDILLA",
    "gCAPITAL LETTER L WITH CARONgSMALL LETTER L WITH CARONgCAPITAL LETTER L WITH MIDDLE DOT",
    "gSMALL LETTER L WITH MIDDLE DOTgCAPITAL LETTER L WITH STROKEgSMALL LETTER L WITH STROKE",
    "gCAPITAL LETTER N WITH ACUTEgSMALL LETTER N WITH ACUTEgCAPITAL LETTER N WITH CEDILLA",
    "gSMALL LETTER N WITH CEDILLAgCAPITAL LETTER N WITH CARONgSMALL LETTER N WITH CARON",
    "vPRECEDED BY APOSTROPHEgCAPITAL LETTER ENGgSMALL LETTER ENGgCAPITAL LETTER O WITH MACRON",
    "gSMALL LETTER O WITH MACRONgCAPITAL LETTER O WITH BREVEgSMALL LETTER O WITH BREVE",
    "gCAPITAL LETTER O WITH DOUBLE ACUTEgSMALL LETTER O WITH DOUBLE ACUTEgCAPITAL LIGATURE OE",
    "gSMALL LIGATURE OEgCAPITAL LETTER R WITH ACUTEgSMALL LETTER R WITH ACUTE",
    "gCAPITAL LETTER R WITH CEDILLAgSMALL LETTER R WITH CEDILLAgCAPITAL LETTER R WITH CARON",
    "gSMALL LETTER R WITH CARONgCAPITAL LETTER S WITH ACUTEgSMALL LETTER S WITH ACUTE",
    "gCAPITAL LETTER S WITH CIRCUMFLEXgSMALL LETTER S WITH CIRCUMFLEX",
    "gCAPITAL LETTER S WITH CEDILLAgSMALL LETTER S WITH CEDILLAgCAPITAL LETTER S WITH CARON",
    "gSMALL LETTER S WITH CARONgCAPITAL LETTER T WITH CEDILLAgSMALL LETTER T WITH CEDILLA",
    "gCAPITAL LETTER T WITH CARONgSMALL LETTER T WITH CARONgCAPITAL LETTER T WITH STROKE",
    "gSMALL LETTER T WITH STROKEgCAPITAL LETTER U WITH TILDEgSMALL LETTER U WITH TILDE",
    "gCAPITAL LETTER U WITH MACRONgSMALL LETTER U WITH MACRONgCAPITAL LETTER U WITH BREVE",
    "gSMALL LETTER U WITH BREVEgCAPITAL LETTER U WITH RING ABOVEgSMALL LETTER U WITH RING ABOVE",
    "gCAPITAL LETTER U WITH DOUBLE ACUTEgSMALL LETTER U WITH DOUBLE ACUTE",
    "gCAPITAL LETTER U WITH OGONEKgSMALL LETTER U WITH OGONEKgCAPITAL LETTER W WITH CIRCUMFLEX",
    "gSMALL LETTER W WITH CIRCUMFLEXgCAPITAL LETTER Y WITH CIRCUMFLEX",
    "gSMALL LETTER Y WITH CIRCUMFLEXgCAPITAL LETTER Y WITH DIAERESISvZ WITH ACUTE",
    "gSMALL LETTER Z WITH ACUTEgCAPITAL LETTER Z WITH DOT ABOVEgSMALL LETTER Z WITH DOT ABOVE",
    "gCAPITAL LETTER Z WITH CARONgSMALL LETTER Z WITH CARONtLONG StB WITH STROKE",
    "gCAPITAL LETTER B WITH HOOKbcTOPBARgSMALL LETTER B WITH TOPBARgCAPITAL LETTER TONE SIX",
    "gSMALL LETTER TONE SIXgCAPITAL LETTER OPEN OvC WITH HOOKgSMALL LETTER C WITH HOOK",
    "gCAPITAL LETTER AFRICAN DvD WITH HOOKbcTOPBARgSMALL LETTER D WITH TOPBARtTURNED DELTA",
    "gCAPITAL LETTER REVERSED EvSCHWAvOPEN EvF WITH HOOKgSMALL LETTER F WITH HOOK",
    "gCAPITAL LETTER G WITH HOOKwAMMAgSMALL LETTER HVgCAPITAL LETTER IOTAw WITH STROKEvK WITH HOOK",
    "gSMALL LETTER K WITH HOOKtL WITH BARuAMBDA WITH STROKEgCAPITAL LETTER TURNED M",
    "vN WITH LEFT HOOKgSMALL LETTER N WITH LONG RIGHT LEGgCAPITAL LETTER O WITH MIDDLE TILDEbcHORN",
    "gSMALL LETTER O WITH HORNgCAPITAL LETTER GHA+0vOIgSMALL LETTER GHA+0tOI",
    "gCAPITAL LETTER P WITH HOOKgSMALL LETTER P WITH HOOKgLETTER YRgCAPITAL LETTER TONE TWO",
    "gSMALL LETTER TONE TWOgCAPITAL LETTER ESHgLETTER REVERSED ESH LOOP",
    "gSMALL LETTER T WITH PALATAL HOOKgCAPITAL LETTER T WITH HOOKgSMALL LETTER T WITH HOOK",
    "gCAPITAL LETTER T WITH RETROFLEX HOOKvU WITH HORNgSMALL LETTER U WITH HORN",
    "gCAPITAL LETTER UPSILONvV WITH HOOKvY WITH HOOKgSMALL LETTER Y WITH HOOK",
    "gCAPITAL LETTER Z WITH STROKEgSMALL LETTER Z WITH STROKEgCAPITAL LETTER EZHy REVERSED",
    "gSMALL LETTER EZH REVERSEDxWITH TAILgLETTER TWO WITH STROKEgCAPITAL LETTER TONE FIVE",
    "gSMALL LETTER TONE FIVEgLETTER INVERTED GLOTTAL STOP WITH STROKEnWYNNnDENTAL CLICK",
    "nLATERAL CLICKnALVEOLAR CLICKnRETROFLEX CLICKgCAPITAL LETTER DZ WITH CARON",
    "w WITH SMALL LETTER Z WITH CARONgSMALL LETTER DZ WITH CARONgCAPITAL LETTER LJ",
    "w WITH SMALL LETTER JgSMALL LETTER LJgCAPITAL LETTER NJw WITH SMALL LETTER JgSMALL LETTER NJ",
    "gCAPITAL LETTER A WITH CARONgSMALL LETTER A WITH CARONgCAPITAL LETTER I WITH CARON",
    "gSMALL LETTER I WITH CARONgCAPITAL LETTER O WITH CARONgSMALL LETTER O WITH CARON",
    "gCAPITAL LETTER U WITH CARONgSMALL LETTER U WITH CARON",
    "gCAPITAL LETTER U WITH DIAERESIS AND MACRONgSMALL LETTER U WITH DIAERESIS AND MACRON",
    "gCAPITAL LETTER U WITH DIAERESIS AND ACUTEgSMALL LETTER U WITH DIAERESIS AND ACUTE",
    "gCAPITAL LETTER U WITH DIAERESIS AND CARONgSMALL LETTER U WITH DIAERESIS AND CARON",
    "gCAPITAL LETTER U WITH DIAERESIS AND GRAVEgSMALL LETTER U WITH DIAERESIS AND GRAVEtTURNED E",
    "gCAPITAL LETTER A WITH DIAERESIS AND MACRONgSMALL LETTER A WITH DIAERESIS AND MACRON",
    "gCAPITAL LETTER A WITH DOT ABOVE AND MACRONgSMALL LETTER A WITH DOT ABOVE AND MACRON",
    "gCAPITAL LETTER AE WITH MACRONgSMALL LETTER AE WITH MACRONgCAPITAL LETTER G WITH STROKE",
    "gSMALL LETTER G WITH STROKEgCAPITAL LETTER G WITH CARONgSMALL LETTER G WITH CARON",
    "gCAPITAL LETTER K WITH CARONgSMALL LETTER K WITH CARONgCAPITAL LETTER O WITH OGONEK",
    "gSMALL LETTER O WITH OGONEKgCAPITAL LETTER O WITH OGONEK AND MACRON",
    "gSMALL LETTER O WITH OGONEK AND MACRONgCAPITAL LETTER EZH WITH CARON",
    "gSMALL LETTER EZH WITH CARONtJ WITH CARONgCAPITAL LETTER DZw WITH SMALL LETTER Z",
    "gSMALL LETTER DZgCAPITAL LETTER G WITH ACUTEgSMALL LETTER G WITH ACUTEgCAPITAL LETTER HWAIR",
    "vWYNNvN WITH GRAVEgSMALL LETTER N WITH GRAVEgCAPITAL LETTER A WITH RING ABOVE AND ACUTE",
    "gSMALL LETTER A WITH RING ABOVE AND ACUTEgCAPITAL LETTER AE WITH ACUTE",
    "gSMALL LETTER AE WITH ACUTEgCAPITAL LETTER O WITH STROKE AND ACUTE",
    "gSMALL LETTER O WITH STROKE AND ACUTEgCAPITAL LETTER A WITH DOUBLE GRAVE",
    "gSMALL LETTER A WITH DOUBLE GRAVEgCAPITAL LETTER A WITH INVERTED BREVE",
    "gSMALL LETTER A WITH INVERTED BREVEgCAPITAL LETTER E WITH DOUBLE GRAVE",
    "gSMALL LETTER E WITH DOUBLE GRAVEgCAPITAL LETTER E WITH INVERTED BREVE",
    "gSMALL LETTER E WITH INVERTED BREVEgCAPITAL LETTER I WITH DOUBLE GRAVE",
    "gSMALL LETTER I WITH DOUBLE GRAVEgCAPITAL LETTER I WITH INVERTED BREVE",
    "gSMALL LETTER I WITH INVERTED BREVEgCAPITAL LETTER O WITH DOUBLE GRAVE",
    "gSMALL LETTER O WITH DOUBLE GRAVEgCAPITAL LETTER O WITH INVERTED BREVE",
    "gSMALL LETTER O WITH INVERTED BREVEgCAPITAL LETTER R WITH DOUBLE GRAVE",
    "gSMALL LETTER R WITH DOUBLE GRAVEgCAPITAL LETTER R WITH INVERTED BREVE",
    "gSMALL LETTER R WITH INVERTED BREVEgCAPITAL LETTER U WITH DOUBLE GRAVE",
    "gSMALL LETTER U WITH DOUBLE GRAVEgCAPITAL LETTER U WITH INVERTED BREVE",
    "gSMALL LETTER U WITH INVERTED BREVEgCAPITAL LETTER S WITH COMMA BELOW",
    "gSMALL LETTER S WITH COMMA BELOWgCAPITAL LETTER T WITH COMMA BELOW",
    "gSMALL LETTER T WITH COMMA BELOWgCAPITAL LETTER YOGHgSMALL LETTER YOGH",
    "gCAPITAL LETTER H WITH CARONgSMALL LETTER H WITH CARONgCAPITAL LETTER N WITH LONG RIGHT LEG",
    "gSMALL LETTER D WITH CURLgCAPITAL LETTER OUgSMALL LETTER OUgCAPITAL LETTER Z WITH HOOK",
    "gSMALL LETTER Z WITH HOOKgCAPITAL LETTER A WITH DOT ABOVEgSMALL LETTER A WITH DOT ABOVE",
    "gCAPITAL LETTER E WITH CEDILLAgSMALL LETTER E WITH CEDILLA",
    "gCAPITAL LETTER O WITH DIAERESIS AND MACRONgSMALL LETTER O WITH DIAERESIS AND MACRON",
    "gCAPITAL LETTER O WITH TILDE AND MACRONgSMALL LETTER O WITH TILDE AND MACRON",
    "gCAPITAL LETTER O WITH DOT ABOVEgSMALL LETTER O WITH DOT ABOVE",
    "gCAPITAL LETTER O WITH DOT ABOVE AND MACRONgSMALL LETTER O WITH DOT ABOVE AND MACRON",
    "gCAPITAL LETTER Y WITH MACRONgSMALL LETTER Y WITH MACRONtL WITH CURLtN WITH CURLtT WITH CURL",
    "tDOTLESS JuB DIGRAPHtQP DIGRAPHgCAPITAL LETTER A WITH STROKEvC WITH STROKE",
    "gSMALL LETTER C WITH STROKEgCAPITAL LETTER L WITH BARvT WITH DIAGONAL STROKE",
    "gSMALL LETTER S WITH SWASH TAILtZ WITH SWASH TAILgCAPITAL LETTER GLOTTAL STOP",
    "gSMALL LETTER GLOTTAL STOPgCAPITAL LETTER B WITH STROKEvU BARvTURNED VvE WITH STROKE",
    "gSMALL LETTER E WITH STROKEgCAPITAL LETTER J WITH STROKEgSMALL LETTER J WITH STROKE",
    "gCAPITAL LETTER SMALL Q WITH HOOK TAILgSMALL LETTER Q WITH HOOK TAIL",
    "gCAPITAL LETTER R WITH STROKEgSMALL LETTER R WITH STROKEgCAPITAL LETTER Y WITH STROKE",
    "gSMALL LETTER Y WITH STROKEtTURNED AtALPHAtTURNED ALPHAtB WITH HOOKtOPEN OtC WITH CURL",
    "tD WITH TAILbaHOOKtREVERSED EtSCHWAy WITH HOOKtOPEN EtREVERSED OPEN Ebi WITH HOOK",
    "tCLOSED REVERSED OPEN EtDOTLESS J WITH STROKEtG WITH HOOKtSCRIPT GgLETTER SMALL CAPITAL G",
    "gSMALL LETTER GAMMAtRAMS HORNtTURNED HtH WITH HOOKuENG WITH HOOKtI WITH STROKEuOTA",
    "gLETTER SMALL CAPITAL IgSMALL LETTER L WITH MIDDLE TILDEbaBELTbaRETROFLEX HOOKuEZHtTURNED M",
    "bb WITH LONG LEGtM WITH HOOKtN WITH LEFT HOOKbaRETROFLEX HOOKgLETTER SMALL CAPITAL N",
    "gSMALL LETTER BARRED OgLETTER SMALL CAPITAL OEgSMALL LETTER CLOSED OMEGAtPHItTURNED R",
    "bb WITH LONG LEGbhHOOKtR WITH LONG LEGbaTAILbaFISHHOOKuEVERSED R WITH FISHHOOK",
    "gLETTER SMALL CAPITAL RbbINVERTED RgSMALL LETTER S WITH HOOKtESH",
    "tDOTLESS J WITH STROKE AND HOOKtSQUAT REVERSED ESHtESH WITH CURLtTURNED T",
    "u WITH RETROFLEX HOOKtU BARuPSILONtV WITH HOOKtTURNED VbaWbaYgLETTER SMALL CAPITAL Y",
    "gSMALL LETTER Z WITH RETROFLEX HOOKbaCURLtEZHw WITH CURLgLETTER GLOTTAL STOP",
    "nPHARYNGEAL VOICED FRICATIVEnINVERTED GLOTTAL STOPnSTRETCHED CnBILABIAL CLICKnSMALL CAPITAL B",
    "gSMALL LETTER CLOSED OPEN EgLETTER SMALL CAPITAL G WITH HOOKbbH",
    "gSMALL LETTER J WITH CROSSED-TAILtTURNED KgLETTER SMALL CAPITAL LgSMALL LETTER Q WITH HOOK",
    "gLETTER GLOTTAL STOP WITH STROKEnREVERSED GLOTTAL STOP WITH STROKEgSMALL LETTER DZ DIGRAPH",
    "uEZH DIGRAPHuZ DIGRAPH WITH CURLtTS DIGRAPHuESH DIGRAPHuC DIGRAPH WITH CURLtFENG DIGRAPH",
    "tLS DIGRAPHuZ DIGRAPHgLETTER BILABIAL PERCUSSIVEpDENTAL PERCUSSIVE",
    "gSMALL LETTER TURNED H WITH FISHHOOKbp AND TAILaMODIFIER LETTER SMALL Hx WITH HOOKwJwR",
    "wTURNED Rbe WITH HOOKwCAPITAL INVERTED RwWwYqPRIMEqDOUBLE PRIMEqTURNED COMMAqAPOSTROPHE",
    "qREVERSED COMMArIGHT HALF RINGqLEFT HALF RINGqGLOTTAL STOPqREVERSED GLOTTAL STOP",
    "qLEFT ARROWHEADqRIGHT ARROWHEADqUP ARROWHEADqDOWN ARROWHEADqCIRCUMFLEX ACCENTaCARON",
    "aMODIFIER LETTER VERTICAL LINEqMACRONqACUTE ACCENTqGRAVE ACCENTqLOW VERTICAL LINEuMACRON",
    "uGRAVE ACCENTuACUTE ACCENTqTRIANGULAR COLONqHALF TRIANGULAR COLONqCENTRED RIGHT HALF RING",
    "yLEFT HALF RINGqUP TACKqDOWN TACKqPLUS SIGNqMINUS SIGNaBREVEaDOT ABOVEaRING ABOVEaOGONEK",
    "aSMALL TILDEaDOUBLE ACUTE ACCENTaMODIFIER LETTER RHOTIC HOOKqCROSS ACCENTqSMALL GAMMAwLwSwX",
    "wREVERSED GLOTTAL STOPqEXTRA-HIGH TONE BARqHIGH TONE BARqMID TONE BARqLOW TONE BAR",
    "qEXTRA-LOW TONE BARqYIN DEPARTING TONE MARKrANG DEPARTING TONE MARKqVOICINGqUNASPIRATED",
    "qDOUBLE APOSTROPHEqLOW DOWN ARROWHEADuUP ARROWHEADuLEFT ARROWHEADuRIGHT ARROWHEADwNG",
    "qMIDDLE GRAVE ACCENTxDOUBLE GRAVE ACCENTbeACUTE ACCENTqLOW TILDEqRAISED COLONqBEGIN HIGH TONE",
    "qEND HIGH TONEqBEGIN LOW TONEqEND LOW TONEqSHELFqOPEN SHELFqLOW LEFT ARROW",
    "aCOMBINING GRAVE ACCENTkACUTE ACCENTkCIRCUMFLEX ACCENTkTILDEkMACRONkOVERLINEkBREVEkDOT ABOVE",
    "lIAERESISkHOOK ABOVEkRING ABOVEkDOUBLE ACUTE ACCENTkCARONkVERTICAL LINE ABOVE",
    "kDOUBLE VERTICAL LINE ABOVErGRAVE ACCENTkCANDRABINDUkINVERTED BREVEkTURNED COMMA ABOVE",
    "kCOMMA ABOVEkREVERSED COMMA ABOVEkCOMMA ABOVE RIGHTkGRAVE ACCENT BELOWkACUTE ACCENT BELOW",
    "kLEFT TACK BELOWkRIGHT TACK BELOWkLEFT ANGLE ABOVEkHORNkLEFT HALF RING BELOWkUP TACK BELOW",
    "kDOWN TACK BELOWkPLUS SIGN BELOWkMINUS SIGN BELOWkPALATALIZED HOOK BELOWkRETROFLEX HOOK BELOW",
    "kDOT BELOWlIAERESIS BELOWkRING BELOWkCOMMA BELOWlEDILLAkOGONEKkVERTICAL LINE BELOW",
    "kBRIDGE BELOWkINVERTED DOUBLE ARCH BELOWkCARON BELOWlIRCUMFLEX ACCENT BELOWkBREVE BELOW",
    "kINVERTED BREVE BELOWkTILDE BELOWkMACRON BELOWkLOW LINEkDOUBLE LOW LINEkTILDE OVERLAY",
    "kSHORT STROKE OVERLAYkLONG STROKE OVERLAYkSHORT SOLIDUS OVERLAYkLONG SOLIDUS OVERLAY",
    "kRIGHT HALF RING BELOWkINVERTED BRIDGE BELOWkSQUARE BELOWlEAGULL BELOWkX ABOVEkVERTICAL TILDE",
    "kDOUBLE OVERLINEkGRAVE TONE MARKkACUTE TONE MARKkGREEK PERISPOMENIqKORONISqDIALYTIKA TONOS",
    "qYPOGEGRAMMENIkBRIDGE ABOVEkEQUALS SIGN BELOWkDOUBLE VERTICAL LINE BELOWkLEFT ANGLE BELOW",
    "kNOT TILDE ABOVEkHOMOTHETIC ABOVEkALMOST EQUAL TO ABOVEkLEFT RIGHT ARROW BELOW",
    "kUPWARDS ARROW BELOWbGJ+0bOMBINING GRAPHEME JOINERkRIGHT ARROWHEAD ABOVEkLEFT HALF RING ABOVE",
    "kFERMATAkX BELOWkLEFT ARROWHEAD BELOWkRIGHT ARROWHEAD BELOWbaAND UP ARROWHEAD BELOW",
    "qHALF RING ABOVEkDOT ABOVE RIGHTkASTERISK BELOWkDOUBLE RING BELOWkZIGZAG ABOVE",
    "kDOUBLE BREVE BELOWw+1rMACRONx BELOWrTILDErINVERTED BREVErRIGHTWARDS ARROW BELOW",
    "kLATIN SMALL LETTER AbdEbdIbdObdUbdCbdDbdHbdMbdRbdTbdVbdXaGREEK CAPITAL LETTER HETA",
    "gSMALL LETTER HETAgCAPITAL LETTER ARCHAIC SAMPIgSMALL LETTER ARCHAIC SAMPIgNUMERAL SIGN",
    "gLOWER NUMERAL SIGNgCAPITAL LETTER PAMPHYLIAN DIGAMMAgSMALL LETTER PAMPHYLIAN DIGAMMA",
    "+3gYPOGEGRAMMENIgSMALL REVERSED LUNATE SIGMA SYMBOLmDOTTED LUNATE SIGMA SYMBOL",
    "mREVERSED DOTTED LUNATE SIGMA SYMBOLgQUESTION MARKgCAPITAL LETTER YOT+5gTONOSgDIALYTIKA TONOS",
    "gCAPITAL LETTER ALPHA WITH TONOSgANO TELEIAgCAPITAL LETTER EPSILON WITH TONOSwTA WITH TONOS",
    "vIOTA WITH TONOS+2vOMICRON WITH TONOS+2vUPSILON WITH TONOSvOMEGA WITH TONOS",
    "gSMALL LETTER IOTA WITH DIALYTIKA AND TONOSgCAPITAL LETTER ALPHAvBETAvGAMMAvDELTAvEPSILON",
    "vZETAvETAvTHETAvIOTAvKAPPAvLAMDAvMUvNUvXIvOMICRONvPIvRHO+2vSIGMAvTAUvUPSILONvPHIvCHIvPSI",
    "vOMEGAvIOTA WITH DIALYTIKAvUPSILON WITH DIALYTIKAgSMALL LETTER ALPHA WITH TONOS",
    "tEPSILON WITH TONOSuTA WITH TONOStIOTA WITH TONOStUPSILON WITH DIALYTIKA AND TONOStALPHAtBETA",
    "tGAMMAtDELTAtEPSILONtZETAtETAtTHETAtIOTAtKAPPAtLAMDAtMUtNUtXItOMICRONtPItRHOtFINAL SIGMA",
    "tSIGMAtTAUtUPSILONtPHItCHItPSItOMEGAtIOTA WITH DIALYTIKAtUPSILON WITH DIALYTIKA",
    "tOMICRON WITH TONOStUPSILON WITH TONOStOMEGA WITH TONOSgCAPITAL KAI SYMBOLgBETA SYMBOL",
    "gTHETA SYMBOLgUPSILON WITH HOOK SYMBOLtACUTE AND HOOK SYMBOLtDIAERESIS AND HOOK SYMBOL",
    "gPHI SYMBOLhI SYMBOLgKAI SYMBOLgLETTER ARCHAIC KOPPAgSMALL LETTER ARCHAIC KOPPAgLETTER STIGMA",
    "gSMALL LETTER STIGMAgLETTER DIGAMMAgSMALL LETTER DIGAMMAgLETTER KOPPAgSMALL LETTER KOPPA",
    "gLETTER SAMPIgSMALL LETTER SAMPIaCOPTIC CAPITAL LETTER SHEIhSMALL LETTER SHEI",
    "hCAPITAL LETTER FEIhSMALL LETTER FEIhCAPITAL LETTER KHEIhSMALL LETTER KHEI",
    "hCAPITAL LETTER HORIhSMALL LETTER HORIhCAPITAL LETTER GANGIAhSMALL LETTER GANGIA",
    "hCAPITAL LETTER SHIMAhSMALL LETTER SHIMAhCAPITAL LETTER DEIhSMALL LETTER DEI",
    "aGREEK KAPPA SYMBOLgRHO SYMBOLgLUNATE SIGMA SYMBOLhETTER YOTgCAPITAL THETA SYMBOL",
    "gLUNATE EPSILON SYMBOLgREVERSED LUNATE EPSILON SYMBOLgCAPITAL LETTER SHOgSMALL LETTER SHO",
    "gCAPITAL LUNATE SIGMA SYMBOLpETTER SANgSMALL LETTER SANgRHO WITH STROKE SYMBOL",
    "gCAPITAL REVERSED LUNATE SIGMA SYMBOLoDOTTED LUNATE SIGMA SYMBOL",
    "oREVERSED DOTTED LUNATE SIGMA SYMBOLaCYRILLIC CAPITAL LETTER IE WITH GRAVEzOyDJEyGJE",
    "yUKRAINIAN IEyDZEyBYELORUSSIAN-UKRAINIAN IyYIyJEyLJEyNJEyTSHEyKJEyI WITH GRAVEySHORT UyDZHEyA",
    "yBEyVEyGHEyDEyIEyZHEzEyIySHORT IyKAyELzMzNyOyPEyERzSyTEyUyEFyHAyTSEyCHEySHAbaCHAyHARD SIGN",
    "yYERUySOFT SIGNyEyYUzAjSMALL LETTER AwBEwVEwGHEwDEwIEwZHExEwIwSHORT IwKAwELxMxNwOwPEwERxSwTE",
    "wUwEFwHAwTSEwCHEwSHAyCHAwHARD SIGNwYERUwSOFT SIGNwEwYUxAwIE WITH GRAVExOwDJEwGJEwUKRAINIAN IE",
    "wDZEwBYELORUSSIAN-UKRAINIAN IwYIwJEwLJEwNJEwTSHEwKJEwI WITH GRAVEwSHORT UwDZHE",
    "jCAPITAL LETTER OMEGAjSMALL LETTER OMEGAjCAPITAL LETTER YATjSMALL LETTER YAT",
    "jCAPITAL LETTER IOTIFIED EjSMALL LETTER IOTIFIED EjCAPITAL LETTER LITTLE YUS",
    "jSMALL LETTER LITTLE YUSjCAPITAL LETTER IOTIFIED LITTLE YUSjSMALL LETTER IOTIFIED LITTLE YUS",
    "jCAPITAL LETTER BIG YUSjSMALL LETTER BIG YUSjCAPITAL LETTER IOTIFIED BIG YUS",
    "jSMALL LETTER IOTIFIED BIG YUSjCAPITAL LETTER KSIjSMALL LETTER KSIjCAPITAL LETTER PSI",
    "jSMALL LETTER PSIjCAPITAL LETTER FITAjSMALL LETTER FITAjCAPITAL LETTER IZHITSA",
    "jSMALL LETTER IZHITSAjCAPITAL LETTER IZHITSA WITH DOUBLE GRAVE ACCENT",
    "jSMALL LETTER IZHITSA WITH DOUBLE GRAVE ACCENTjCAPITAL LETTER UKjSMALL LETTER UK",
    "jCAPITAL LETTER ROUND OMEGAjSMALL LETTER ROUND OMEGAjCAPITAL LETTER OMEGA WITH TITLO",
    "jSMALL LETTER OMEGA WITH TITLOjCAPITAL LETTER OTjSMALL LETTER OTjCAPITAL LETTER KOPPA",
    "jSMALL LETTER KOPPAjTHOUSANDS SIGNbOMBINING CYRILLIC TITLOtPALATALIZATIONtDASIA PNEUMATA",
    "tPSILI PNEUMATAuOKRYTIEtHUNDRED THOUSANDS SIGNtMILLIONS SIGN",
    "bYRILLIC CAPITAL LETTER SHORT I WITH TAILjSMALL LETTER SHORT I WITH TAIL",
    "jCAPITAL LETTER SEMISOFT SIGNjSMALL LETTER SEMISOFT SIGNjCAPITAL LETTER ER WITH TICK",
    "jSMALL LETTER ER WITH TICKjCAPITAL LETTER GHE WITH UPTURNjSMALL LETTER GHE WITH UPTURN",
    "jCAPITAL LETTER GHE WITH STROKEjSMALL LETTER GHE WITH STROKE",
    "jCAPITAL LETTER GHE WITH MIDDLE HOOKjSMALL LETTER GHE WITH MIDDLE HOOK",
    "jCAPITAL LETTER ZHE WITH DESCENDERjSMALL LETTER ZHE WITH DESCENDER",
    "jCAPITAL LETTER ZE WITH DESCENDERjSMALL LETTER ZE WITH DESCENDER",
    "jCAPITAL LETTER KA WITH DESCENDERjSMALL LETTER KA WITH DESCENDER",
    "jCAPITAL LETTER KA WITH VERTICAL STROKEjSMALL LETTER KA WITH VERTICAL STROKE",
    "jCAPITAL LETTER KA WITH STROKEjSMALL LETTER KA WITH STROKEjCAPITAL LETTER BASHKIR KA",
    "jSMALL LETTER BASHKIR KAjCAPITAL LETTER EN WITH DESCENDERjSMALL LETTER EN WITH DESCENDER",
    "jCAPITAL LIGATURE EN GHEjSMALL LIGATURE EN GHEjCAPITAL LETTER PE WITH MIDDLE HOOK",
    "jSMALL LETTER PE WITH MIDDLE HOOKjCAPITAL LETTER ABKHASIAN HAjSMALL LETTER ABKHASIAN HA",
    "jCAPITAL LETTER ES WITH DESCENDERjSMALL LETTER ES WITH DESCENDER",
    "jCAPITAL LETTER TE WITH DESCENDERjSMALL LETTER TE WITH DESCENDERjCAPITAL LETTER STRAIGHT U",
    "jSMALL LETTER STRAIGHT UjCAPITAL LETTER STRAIGHT U WITH STROKE",
    "jSMALL LETTER STRAIGHT U WITH STROKEjCAPITAL LETTER HA WITH DESCENDER",
    "jSMALL LETTER HA WITH DESCENDERjCAPITAL LIGATURE TE TSEjSMALL LIGATURE TE TSE",
    "jCAPITAL LETTER CHE WITH DESCENDERjSMALL LETTER CHE WITH DESCENDER",
    "jCAPITAL LETTER CHE WITH VERTICAL STROKEjSMALL LETTER CHE WITH VERTICAL STROKE",
    "jCAPITAL LETTER SHHAjSMALL LETTER SHHAjCAPITAL LETTER ABKHASIAN CHE",
    "jSMALL LETTER ABKHASIAN CHEjCAPITAL LETTER ABKHASIAN CHE WITH DESCENDER",
    "jSMALL LETTER ABKHASIAN CHE WITH DESCENDERjLETTER PALOCHKAjCAPITAL LETTER ZHE WITH BREVE",
    "jSMALL LETTER ZHE WITH BREVEjCAPITAL LETTER KA WITH HOOKjSMALL LETTER KA WITH HOOK",
    "jCAPITAL LETTER EL WITH TAILjSMALL LETTER EL WITH TAILjCAPITAL LETTER EN WITH HOOK",
    "jSMALL LETTER EN WITH HOOKjCAPITAL LETTER EN WITH TAILjSMALL LETTER EN WITH TAIL",
    "jCAPITAL LETTER KHAKASSIAN CHEjSMALL LETTER KHAKASSIAN CHEjCAPITAL LETTER EM WITH TAIL",
    "jSMALL LETTER EM WITH TAILwPALOCHKAjCAPITAL LETTER A WITH BREVEjSMALL LETTER A WITH BREVE",
    "jCAPITAL LETTER A WITH DIAERESISjSMALL LETTER A WITH DIAERESISjCAPITAL LIGATURE A IE",
    "jSMALL LIGATURE A IEjCAPITAL LETTER IE WITH BREVEjSMALL LETTER IE WITH BREVE",
    "jCAPITAL LETTER SCHWAjSMALL LETTER SCHWAjCAPITAL LETTER SCHWA WITH DIAERESIS",
    "jSMALL LETTER SCHWA WITH DIAERESISjCAPITAL LETTER ZHE WITH DIAERESIS",
    "jSMALL LETTER ZHE WITH DIAERESISjCAPITAL LETTER ZE WITH DIAERESIS",
    "jSMALL LETTER ZE WITH DIAERESISjCAPITAL LETTER ABKHASIAN DZEjSMALL LETTER ABKHASIAN DZE",
    "jCAPITAL LETTER I WITH MACRONjSMALL LETTER I WITH MACRONjCAPITAL LETTER I WITH DIAERESIS",
    "jSMALL LETTER I WITH DIAERESISjCAPITAL LETTER O WITH DIAERESISjSMALL LETTER O WITH DIAERESIS",
    "jCAPITAL LETTER BARRED OjSMALL LETTER BARRED OjCAPITAL LETTER BARRED O WITH DIAERESIS",
    "jSMALL LETTER BARRED O WITH DIAERESISjCAPITAL LETTER E WITH DIAERESIS",
    "jSMALL LETTER E WITH DIAERESISjCAPITAL LETTER U WITH MACRONjSMALL LETTER U WITH MACRON",
    "jCAPITAL LETTER U WITH DIAERESISjSMALL LETTER U WITH DIAERESIS",
    "jCAPITAL LETTER U WITH DOUBLE ACUTEjSMALL LETTER U WITH DOUBLE ACUTE",
    "jCAPITAL LETTER CHE WITH DIAERESISjSMALL LETTER CHE WITH DIAERESIS",
    "jCAPITAL LETTER GHE WITH DESCENDERjSMALL LETTER GHE WITH DESCENDER",
    "jCAPITAL LETTER YERU WITH DIAERESISjSMALL LETTER YERU WITH DIAERESIS",
    "jCAPITAL LETTER GHE WITH STROKE AND HOOKjSMALL LETTER GHE WITH STROKE AND HOOK",
    "jCAPITAL LETTER HA WITH HOOKjSMALL LETTER HA WITH HOOKjCAPITAL LETTER HA WITH STROKE",
    "jSMALL LETTER HA WITH STROKEjCAPITAL LETTER KOMI DEjSMALL LETTER KOMI DE",
    "jCAPITAL LETTER KOMI DJEjSMALL LETTER KOMI DJEjCAPITAL LETTER KOMI ZJEjSMALL LETTER KOMI ZJE",
    "jCAPITAL LETTER KOMI DZJEjSMALL LETTER KOMI DZJEjCAPITAL LETTER KOMI LJE",
    "jSMALL LETTER KOMI LJEjCAPITAL LETTER KOMI NJEjSMALL LETTER KOMI NJEjCAPITAL LETTER KOMI SJE",
    "jSMALL LETTER KOMI SJEjCAPITAL LETTER KOMI TJEjSMALL LETTER KOMI TJE",
    "jCAPITAL LETTER REVERSED ZEjSMALL LETTER REVERSED ZEjCAPITAL LETTER EL WITH HOOK",
    "jSMALL LETTER EL WITH HOOKjCAPITAL LETTER LHAjSMALL LETTER LHAjCAPITAL LETTER RHA",
    "jSMALL LETTER RHAjCAPITAL LETTER YAEjSMALL LETTER YAEjCAPITAL LETTER QAjSMALL LETTER QA",
    "jCAPITAL LETTER WEjSMALL LETTER WEjCAPITAL LETTER ALEUT KAjSMALL LETTER ALEUT KA",
    "jCAPITAL LETTER EL WITH MIDDLE HOOKjSMALL LETTER EL WITH MIDDLE HOOK",
    "jCAPITAL LETTER EN WITH MIDDLE HOOKjSMALL LETTER EN WITH MIDDLE HOOK",
    "jCAPITAL LETTER PE WITH DESCENDERjSMALL LETTER PE WITH DESCENDER",
    "jCAPITAL LETTER SHHA WITH DESCENDERjSMALL LETTER SHHA WITH DESCENDER",
    "jCAPITAL LETTER EN WITH LEFT HOOKjSMALL LETTER EN WITH LEFT HOOKjCAPITAL LETTER DZZHE",
    "jSMALL LETTER DZZHEjCAPITAL LETTER DCHEjSMALL LETTER DCHEjCAPITAL LETTER EL WITH DESCENDER",
    "jSMALL LETTER EL WITH DESCENDER+2aARMENIAN CAPITAL LETTER AYByBENyGIMyDAyECHyZAyEHzTyTOyZHE",
    "yINIyLIWNyXEHyCAyKENyHOyJAyGHADyCHEHyMENyYIyNOWySHAyVOyCHAyPEHyJHEHyRAySEHyVEWyTIWNyREHyCO",
    "yYIWNyPIWRyKEHyOHyFEH+3jMODIFIER LETTER LEFT HALF RINGjAPOSTROPHEjEMPHASIS MARK",
    "kXCLAMATION MARKjCOMMAjQUESTION MARKjABBREVIATION MARKjSMALL LETTER TURNED AYBwAYBwBENwGIMwDA",
    "wECHwZAwEHxTwTOwZHEwINIwLIWNwXEHwCAwKENwHOwJAwGHADwCHEHwMENwYIwNOWwSHAwVOwCHAwPEHwJHEHwRAwSEH",
    "wVEWwTIWNwREHwCOwYIWNwPIWRwKEHwOHwFEHqIGATURE ECH YIWNqETTER YI WITH STROKEjFULL STOPjHYPHEN",
    "+3aRIGHT-FACING ARMENIAN ETERNITY SIGNaLEFT-FACING ARMENIAN ETERNITY SIGNaARMENIAN DRAM SIGN",
    "+2aHEBREW ACCENT ETNAHTAoSEGOLpHALSHELEToZAQEF QATANuGADOLoTIPEHAoREVIAoZARQAoPASHTAoYETIV",
    "oTEVIRoGERESHu MUQDAMrSHAYIMoQARNEY PARAoTELISHA GEDOLAoPAZERoATNAH HAFUKHoMUNAHpAHAPAKH",
    "pERKHAu KEFULAoDARGAoQADMAoTELISHA QETANAoYERAH BEN YOMOoOLEoILUYoDEHIoZINOR",
    "hMARK MASORA CIRCLEhPOINT SHEVAnHATAF SEGOLtPATAHtQAMATSoIRIQnTSEREnSEGOLnPATAHnQAMATSnHOLAM",
    "s HASER FOR VAVnQUBUTSnDAGESH OR MAPIQnMETEGiUNCTUATION MAQAFiOINT RAFEiUNCTUATION PASEQ",
    "iOINT SHIN DOToIN DOTiUNCTUATION SOF PASUQhMARK UPPER DOTmLOWER DOThPUNCTUATION NUN HAFUKHA",
    "iOINT QAMATS QATAN+9hLETTER ALEFoBEToGIMELoDALEToHEoVAVoZAYINoHEToTEToYODoFINAL KAFoKAFoLAMED",
    "oFINAL MEMoMEMoFINAL NUNoNUNoSAMEKHoAYINoFINAL PEoPEoFINAL TSADIoTSADIoQOFoRESHoSHINoTAV",
    "+5hYOD TRIANGLEhLIGATURE YIDDISH DOUBLE VAVyVAV YODyDOUBLE YODhPUNCTUATION GERESHwSHAYIM",
    "+12aARABIC NUMBER SIGNhSIGN SANAHhFOOTNOTE MARKERhSIGN SAFHAoMVAThNUMBER MARK ABOVE",
    "g-INDIC CUBE ROOTnFOURTH ROOTg RAYg-INDIC PER MILLE SIGNrTEN THOUSAND SIGNbFGHANI SIGN",
    "bRABIC COMMAhDATE SEPARATORhPOETIC VERSE SIGNhSIGN MISRAmSALLALLAHOU ALAYHE WASSALLAM",
    "mALAYHE ASSALLAMmRAHMATULLAH ALAYHEoDI ALLAHOU ANHUmTAKHALLUSiMALL HIGH TAH",
    "sLIGATURE ALEF WITH LAM WITH YEHsZAINnFATHAnDAMMAnKASRAiEMICOLONbLM+0bRABIC LETTER MARK",
    "hEND OF TEXT MARKhTRIPLE DOT PUNCTUATION MARKhQUESTION MARKhLETTER KASHMIRI YEHoHAMZA",
    "oALEF WITH MADDA ABOVEyHAMZA ABOVEoWAW WITH HAMZA ABOVEoALEF WITH HAMZA BELOW",
    "oYEH WITH HAMZA ABOVEoALEFoBEHoTEH MARBUTAr+1pHEHoJEEMoHAHoKHAHoDALoTHALoREHoZAINoSEENpHEEN",
    "pADoDADoTAHoZAHoAINoGHAINoKEHEH WITH TWO DOTS ABOVEbaHREE DOTS BELOW",
    "oFARSI YEH WITH INVERTED VbdTWO DOTS ABOVEbeHREE DOTS ABOVEhTATWEELhLETTER FEHoQAFoKAFoLAM",
    "oMEEMoNOONoHEHoWAWoALEF MAKSURAoYEHhFATHATANhDAMMATANhKASRATANhFATHAhDAMMAhKASRAhSHADDAiUKUN",
    "hMADDAH ABOVEhHAMZA ABOVEnBELOWhSUBSCRIPT ALEFhINVERTED DAMMAhMARK NOON GHUNNAhZWARAKAY",
    "hVOWEL SIGN SMALL V ABOVEsINVERTED SMALL V ABOVEsDOT BELOWhREVERSED DAMMAhFATHA WITH TWO DOTS",
    "hWAVY HAMZA BELOWg-INDIC DIGIT ZEROtONEtTWOuHREEtFOURuIVEtSIXuEVENtEIGHTtNINEg PERCENT SIGN",
    "hDECIMAL SEPARATORhTHOUSANDS SEPARATORhFIVE POINTED STARhLETTER DOTLESS BEHwQAF",
    "oSUPERSCRIPT ALEFoALEF WASLAuITH WAVY HAMZA ABOVEbjBELOWoHIGH HAMZAy ALEFzWAW",
    "oU WITH HAMZA ABOVEoHIGH HAMZA YEHoTTEHsEHoBEEHoTEH WITH RINGxTHREE DOTS ABOVE DOWNWARDSoPEH",
    "oTEHEHoBEHEHoHAH WITH HAMZA ABOVExTWO DOTS VERTICAL ABOVEoNYEHoDYEHoHAH WITH THREE DOTS ABOVE",
    "oTCHEHtEHoDDALpAL WITH RINGxDOT BELOWbg AND SMALL TAHqHALpDAHALpUL",
    "pAL WITH THREE DOTS ABOVE DOWNWARDSxFOUR DOTS ABOVEoRREHpEH WITH SMALL VxRINGxDOT BELOW",
    "xSMALL V BELOWxDOT BELOW AND DOT ABOVExTWO DOTS ABOVEoJEHoREH WITH FOUR DOTS ABOVE",
    "oSEEN WITH DOT BELOW AND DOT ABOVEyTHREE DOTS BELOWbo AND THREE DOTS ABOVE",
    "pAD WITH TWO DOTS BELOWyHREE DOTS ABOVEoTAH WITH THREE DOTS ABOVEoAIN WITH THREE DOTS ABOVE",
    "oDOTLESS FEHoFEH WITH DOT MOVED BELOWbbBELOWoVEHoFEH WITH THREE DOTS BELOWoPEHEH",
    "oQAF WITH DOT ABOVExTHREE DOTS ABOVEoKEHEHoSWASH KAFoKAF WITH RINGxDOT ABOVEoNG",
    "oKAF WITH THREE DOTS BELOWoGAFr WITH RINGoNGOEHoGAF WITH TWO DOTS BELOWpUEH",
    "pAF WITH THREE DOTS ABOVEoLAM WITH SMALL VxDOT ABOVExTHREE DOTS ABOVEbiBELOW",
    "oNOON WITH DOT BELOWtGHUNNAoRNOONoNOON WITH RINGyTHREE DOTS ABOVEoHEH DOACHASHMEE",
    "oTCHEH WITH DOT ABOVEoHEH WITH YEH ABOVEsGOALw WITH HAMZA ABOVEoTEH MARBUTA GOAL",
    "oWAW WITH RINGoKIRGHIZ OEoOEoUoYUoKIRGHIZ YUoWAW WITH TWO DOTS ABOVEoVEoFARSI YEH",
    "oYEH WITH TAILxSMALL VoWAW WITH DOT ABOVEoEoYEH WITH THREE DOTS BELOWsBARREE",
    "y WITH HAMZA ABOVEhFULL STOPhLETTER AEhSMALL HIGH LIGATURE SAD WITH LAM WITH ALEF MAKSURA",
    "bbQAF WITH LAM WITH ALEF MAKSURAsMEEM INITIAL FORMsLAM ALEFsJEEMsTHREE DOTSsSEENhEND OF AYAH",
    "hSTART OF RUB EL HIZBiMALL HIGH ROUNDED ZEROsUPRIGHT RECTANGULAR ZEROsDOTLESS HEAD OF KHAH",
    "sMEEM ISOLATED FORMnLOW SEENnHIGH MADDAnWAWnYEHnHIGH YEHsNOONhPLACE OF SAJDAH",
    "hEMPTY CENTRE LOW STOPuHIGH STOPhROUNDED HIGH STOP WITH FILLED CENTREhSMALL LOW MEEM",
    "hLETTER DAL WITH INVERTED VoREH WITH INVERTED VaEXTENDED ARABIC-INDIC DIGIT ZERObcONEbcTWO",
    "bdHREEbcFOURbdIVEbcSIXbdEVENbcEIGHTbcNINEaARABIC LETTER SHEEN WITH DOT BELOW",
    "oDAD WITH DOT BELOWoGHAIN WITH DOT BELOWhSIGN SINDHI AMPERSANDtPOSTPOSITION MEN",
    "hLETTER HEH WITH INVERTED VaSYRIAC END OF PARAGRAPHhSUPRALINEAR FULL STOPjBLINEAR FULL STOP",
    "jPRALINEAR COLONjBLINEAR COLONhHORIZONTAL COLONhCOLON SKEWED LEFTuRIGHT",
    "hSUPRALINEAR COLON SKEWED LEFTjBLINEAR COLON SKEWED LEFT+0beRIGHThCONTRACTIONhHARKLEAN OBELUS",
    "qMETOBELUSqASTERISCUS+2hABBREVIATION MARKhLETTER ALAPHoSUPERSCRIPT ALAPHoBETHoGAMALt GARSHUNI",
    "oDALATHpOTLESS DALATH RISHoHEoWAWoZAINoHETHoTETHs GARSHUNIoYUDHs HEoKAPHoLAMADHoMIMoNUN",
    "oSEMKATHoFINAL SEMKATHoEoPEoREVERSED PEoSADHEoQAPHoRISHoSHINoTAWoPERSIAN BHETHwGHAMALwDHALATH",
    "hPTHAHA ABOVEoBELOWoDOTTEDhZQAPHA ABOVEoBELOWoDOTTEDhRBASA ABOVEnBELOW",
    "hDOTTED ZLAMA HORIZONTALuANGULARhHBASA ABOVEnBELOWm-ESASA DOTTEDhESASA ABOVEnBELOWhRWAHA",
    "hFEMININE DOThQUSHSHAYAhRUKKAKHAhTWO VERTICAL DOTS ABOVEzBELOWiHREE DOTS ABOVEsBELOW",
    "hOBLIQUE LINE ABOVEuBELOWhMUSIChBARREKH+3hLETTER SOGDIAN ZHAINwKHAPHwFE",
    "aARABIC LETTER BEH WITH THREE DOTS HORIZONTALLY BELOWxDOT BELOW AND THREE DOTS ABOVE",
    "xTHREE DOTS POINTING UPWARDS BELOWce AND TWO DOTS ABOVEyWO DOTS BELOW AND DOT ABOVE",
    "xINVERTED SMALL V BELOWxSMALL VoHAH WITH TWO DOTS ABOVEyHREE DOTS POINTING UPWARDS BELOW",
    "oDAL WITH TWO DOTS VERTICALLY BELOW AND SMALL TAHxINVERTED SMALL V BELOWoREH WITH STROKE",
    "oSEEN WITH FOUR DOTS ABOVEoAIN WITH TWO DOTS ABOVEyHREE DOTS POINTING DOWNWARDS ABOVE",
    "yWO DOTS VERTICALLY ABOVEoFEH WITH TWO DOTS BELOWyHREE DOTS POINTING UPWARDS BELOW",
    "oKEHEH WITH DOT ABOVEzTHREE DOTS ABOVEbkPOINTING UPWARDS BELOWoMEEM WITH DOT ABOVEbcBELOW",
    "oNOON WITH TWO DOTS BELOWySMALL TAHbeVoLAM WITH BARoREH WITH TWO DOTS VERTICALLY ABOVE",
    "xHAMZA ABOVEoSEEN WITH TWO DOTS VERTICALLY ABOVEoHAH WITH SMALL ARABIC LETTER TAH BELOW",
    "bvAND TWO DOTSoSEEN WITH SMALL ARABIC LETTER TAH AND TWO DOTS",
    "oREH WITH SMALL ARABIC LETTER TAH AND TWO DOTSoHAH WITH SMALL ARABIC LETTER TAH ABOVE",
    "oALEF WITH EXTENDED ARABIC-INDIC DIGIT TWO ABOVEcbHREE ABOVE",
    "oFARSI YEH WITH EXTENDED ARABIC-INDIC DIGIT TWO ABOVEcgHREE ABOVEcfFOUR BELOW",
    "oWAW WITH EXTENDED ARABIC-INDIC DIGIT TWO ABOVEcaHREE ABOVE",
    "oYEH BARREE WITH EXTENDED ARABIC-INDIC DIGIT TWO ABOVEchHREE ABOVE",
    "oHAH WITH EXTENDED ARABIC-INDIC DIGIT FOUR BELOW",
    "oSEEN WITH EXTENDED ARABIC-INDIC DIGIT FOUR ABOVEyINVERTED VoKAF WITH TWO DOTS ABOVE",
    "aTHAANA LETTER HAAoSHAVIYANIoNOONUoRAAoBAAoLHAVIYANIoKAAFUoALIFUoVAAVUoMEEMUoFAAFUoDHAALU",
    "oTHAAoLAAMUoGAAFUpNAVIYANIoSEENUoDAVIYANIoZAVIYANIoTAVIYANIoYAAoPAVIYANIoJAVIYANIoCHAVIYANI",
    "oTTAAoHHAAoKHAAoTHAALUoZAAoSHEENUpAADHUoDAADHUoTOoZOoAINUoGHAINUoQAAFUoWAAVUhABAFILIiABAAFILI",
    "hIBIFILIhEEBEEFILIhUBUFILIhOOBOOFILIhEBEFILIiYBEYFILIhOBOFILIiABOAFILIhSUKUNhLETTER NAA",
    "+15aNKO DIGIT ZEROkONEkTWOlHREEkFOURlIVEkSIXlEVENkEIGHTkNINEeLETTER AlEElIlElUlOOm",
    "+1lDAGBASINNAlNlBAlPAlTAlJAlCHAlDAlRAmRAlSAlGBAlFAlKAlLAlNA WOLOSOlMAlNYAmAlHAlWAlYA",
    "lNYA WOLOSOlJONA JAqCHAqRAeCOMBINING SHORT HIGH TONEuLOW TONEuRISING TONE",
    "oLONG DESCENDING TONEtHIGH TONEtLOW TONEtRISING TONEoNASALIZATION MARKoDOUBLE DOT ABOVE",
    "eHIGH TONE APOSTROPHEeLOW TONE APOSTROPHEeSYMBOL OO DENNENlGBAKURUNENeCOMMAeEXCLAMATION MARK",
    "eLAJANYALAN+3eDANTAYALANfOROME SIGNeTAMAN SIGNaSAMARITAN LETTER ALAFrBITrGAMANrDALATrIYrBAA",
    "rZENrITrTITrYUTrKAAFrLABATrMIMrNUNrSINGAATrINrFIrTSAADIYrQUFrRISHrSHANrTAAFkMARK INr-ALAF",
    "pOCCLUSIONpDAGESHlODIFIER LETTER EPENTHETIC YUTlARK EPENTHETIC YUTkVOWEL SIGN LONG EvE",
    "vOVERLONG AAvLONG AAvAAvOVERLONG AvLONG AvAkMODIFIER LETTER SHORT AkVOWEL SIGN SHORT AvLONG U",
    "vUkMODIFIER LETTER IkVOWEL SIGN LONG IvIvOvSUKUNkMARK NEQUDAA+3kPUNCTUATION NEQUDAAwAFSAAQ",
    "xNGEDwBAUwATMAAUwSHIYYAALAAkABBREVIATION MARKkPUNCTUATION MELODIC QITSAwZIQAAwQITSAwZAEFwTURU",
    "wARKAANUwSOF MASHFAATwANNAAU+2aMANDAIC LETTER HALQApABqGqDqHpUSHENNApAZpITpATTqKSAr+1qLqMqNqS",
    "pINpAPqSZqQqRqSHqTpDUSHENNApKADpAINiAFFRICATION MARKiVOCALIZATION MARKiGEMINATION MARK",
    "+3iPUNCTUATION+2aSYRIAC LETTER MALAYALAM NGAyJAyNYAyTTAyNNAbaNAyBHAyRAyLLAbaLAySSA",
    "+6aARABIC LETTER ALEF WITH ATTACHED FATHAbhTOP RIGHT FATHAyRIGHT MIDDLE STROKE",
    "yLEFT MIDDLE STROKEyATTACHED KASRAbhBOTTOM RIGHT KASRAbhROUND DOT ABOVEbiIGHT ROUND DOT",
    "bhLEFT ROUND DOTbhROUND DOT BELOWyDOT ABOVEyATTACHED TOP RIGHT FATHA AND DOT ABOVE",
    "yRIGHT MIDDLE STROKE AND DOT ABOVEyATTACHED BOTTOM RIGHT KASRA AND DOT ABOVE",
    "bhTOP RIGHT FATHA AND LEFT RINGyRIGHT MIDDLE STROKE AND LEFT RING",
    "yATTACHED BOTTOM RIGHT KASRA AND LEFT RINGbhRIGHT HAMZAbhLEFT HAMZA",
    "hTATWEEL WITH OVERSTRUCK HAMZAbfWAWuTWO DOTS BELOWhLETTER THIN YEHhBASELINE ROUND DOT",
    "hRAISED ROUND DOThLETTER NOON WITH INVERTED SMALL VoHAH WITH INVERTED SMALL V BELOW",
    "oTAH WITH DOT BELOWxTHREE DOTS BELOWoKEHEH WITH TWO DOTS VERTICALLY BELOWhVERTICAL TAIL",
    "+2hPOUND MARK ABOVEiIASTRE MARK ABOVE+7hSMALL HIGH WORD AL-JUZnLOW WORD ISHMAAMxMAALAwTASHEEL",
    "hMADDA WAAJIBhSUPERSCRIPT ALEF MOKHASSAShDOUBLED MADDAhHALF MADDA OVER MADDA",
    "hLETTER BEH WITH SMALL V BELOWxHAMZA ABOVEoJEEM WITH TWO DOTS ABOVEoTAH WITH TWO DOTS ABOVE",
    "oFEH WITH DOT BELOW AND THREE DOTS ABOVEoQAF WITH DOT BELOWoLAM WITH DOUBLE BAR",
    "oMEEM WITH THREE DOTS ABOVEoYEH WITH TWO DOTS BELOW AND HAMZA ABOVEbqDOT ABOVEoREH WITH LOOP",
    "oWAW WITH DOT WITHINoROHINGYA YEHoLOW ALEFoDAL WITH THREE DOTS BELOW",
    "oSAD WITH THREE DOTS BELOWoGAF WITH INVERTED STROKEoSTRAIGHT WAWoZAIN WITH INVERTED V ABOVE",
    "oAIN WITH THREE DOTS BELOWoKAF WITH DOT BELOWoQAF WITH DOT BELOW AND NO DOTS ABOVE",
    "oBEH WITH SMALL MEEM ABOVEoPEH WITH SMALL MEEM ABOVEoTEH WITH SMALL TEH ABOVE",
    "oREH WITH SMALL NOON ABOVEoYEH WITH TWO DOTS BELOW AND SMALL NOON ABOVEoAFRICAN FEHwQAFwNOON",
    "oPEH WITH SMALL VoTEH WITH SMALL VpTEH WITH SMALL VpCHEH WITH SMALL VoKEHEH WITH SMALL V",
    "oGHAIN WITH THREE DOTS ABOVEoAFRICAN QAF WITH THREE DOTS ABOVEoJEEM WITH THREE DOTS ABOVE",
    "bjBELOWoLAM WITH SMALL ARABIC LETTER TAH ABOVEoGRAFhSMALL FARSI YEHnHIGH FARSI YEH",
    "sYEH BARREE WITH TWO DOTS BELOWsWORD SAHsZAHhLARGE ROUND DOT ABOVExBELOWhSUKUN BELOW",
    "hLARGE CIRCLE BELOWnROUND DOT INSIDE CIRCLE BELOWhSMALL LOW WAWnHIGH WORD AR-RUBsSADsAINsQAF",
    "sNOON WITH KASRAnLOW NOON WITH KASRAnHIGH WORD ATH-THALATHAyS-SAJDAyN-NISFxSAKTAxQIFxWAQFA",
    "sFOOTNOTE MARKERsSIGN SAFHAhDISPUTED END OF AYAHhTURNED DAMMA BELOWhCURLY FATHAnDAMMAnKASRA",
    "nFATHATANnDAMMATANnKASRATANhTONE ONE DOT ABOVEmTWO DOTS ABOVEmLOOP ABOVEmONE DOT BELOW",
    "mTWO DOTS BELOWmLOOP BELOWhOPEN FATHATANmDAMMATANmKASRATANhSMALL HIGH WAWhFATHA WITH RING",
    "sDOT ABOVEhKASRA WITH DOT BELOWhLEFT ARROWHEAD ABOVEhRIGHT ARROWHEAD ABOVE",
    "hLEFT ARROWHEAD BELOWhRIGHT ARROWHEAD BELOWhDOUBLE RIGHT ARROWHEAD ABOVEbj WITH DOT",
    "hRIGHT ARROWHEAD ABOVE WITH DOThDAMMA WITH DOThMARK SIDEWAYS NOON GHUNNA",
    "aDEVANAGARI SIGN INVERTED CANDRABINDUqCANDRABINDUqANUSVARAqVISARGAlLETTER SHORT AsAtAsItIsUtU",
    "sVOCALIC RbaLsCANDRA EsSHORT EsEsAIsCANDRA OsSHORT OsOsAUsKAtHAsGAtHAsNGAsCAtHAsJAtHAsNYAsTTA",
    "uHAsDDAuHAsNNAsTAtHAsDAtHAsNAtNNAsPAtHAsBAtHAsMAsYAsRAtRAsLAtLAuLAsVAsSHAtSAtAsHA",
    "lVOWEL SIGN OExOElSIGN NUKTAqAVAGRAHAlVOWEL SIGN AAwIxIwUxUwVOCALIC RbfRwCANDRA EwSHORT EwE",
    "wAIwCANDRA OwSHORT OwOwAUlSIGN VIRAMAlVOWEL SIGN PRISHTHAMATRA EwAWlOMlSTRESS SIGN UDATTA",
    "xANUDATTAlGRAVE ACCENTlACUTE ACCENTlVOWEL SIGN CANDRA LONG EwUExUElLETTER QAsKHHAsGHHAsZA",
    "sDDDHAsRHAsFAsYYAsVOCALIC RRbaLLlVOWEL SIGN VOCALIC LbfLlDANDAmOUBLE DANDAmIGIT ZEROrONErTWO",
    "sHREErFOURsIVErSIXsEVENrEIGHTrNINElABBREVIATION SIGNlSIGN HIGH SPACING DOTlLETTER CANDRA AsOE",
    "tOEsAWsUEtUEsMARWARI DDAsZHAsHEAVY YAsGGAsJJAsGLOTTAL STOPsDDDAsBBAaBENGALI ANJI",
    "iSIGN CANDRABINDUnANUSVARAnVISARGA+2iLETTER AqApIqIpUqUpVOCALIC RxL+3pEpAI+3pOpAUpKAqHApGAqHA",
    "pNGApCAqHApJAqHApNYApTTArHApDDArHApNNApTAqHApDAqHApNA+2pPAqHApBAqHApMApYApRA+2pLA+4pSHAqSAqA",
    "pHA+3iSIGN NUKTAnAVAGRAHAiVOWEL SIGN AAtIuItUuUtVOCALIC RbcR+3tEtAI+3tOtAUiSIGN VIRAMA",
    "iLETTER KHANDA TA+9iAU LENGTH MARK+5iLETTER RRAqHA+2pYYApVOCALIC RRxLLiVOWEL SIGN VOCALIC L",
    "bcL+3iDIGIT ZEROoONEoTWOpHREEoFOURpIVEoSIXpEVENoEIGHToNINEiLETTER RA WITH MIDDLE DIAGONAL",
    "xLOWER DIAGONALiRUPEE MARKoSIGNiCURRENCY NUMERATOR ONEbbTWObcHREEbbFOUR",
    "bbONE LESS THAN THE DENOMINATORrDENOMINATOR SIXTEENiISSHARiGANDA MARKiLETTER VEDIC ANUSVARA",
    "iABBREVIATION SIGNiSANDHI MARK+3aGURMUKHI SIGN ADAK BINDIoBINDIoVISARGA+2jLETTER ArAqIrIqUrU",
    "+5qEEqAI+3qOOqAUqKArHAqGArHAqNGAqCArHAqJArHAqNYAqTTAsHAqDDAsHAqNNAqTArHAqDArHAqNA+2qPArHAqBA",
    "rHAqMAqYAqRA+2qLArLA+2qVAqSHA+2rAqHA+3jSIGN NUKTA+2jVOWEL SIGN AAuIvIuUvU+5uEEuAI+3uOOuAU",
    "jSIGN VIRAMA+4oUDAAT+8jLETTER KHHAqGHHAqZAqRRA+2qFA+8jDIGIT ZEROpONEpTWOqHREEpFOURqIVEpSIX",
    "qEVENpEIGHTpNINEjTIPPIjADDAKjIRIjURAjEK ONKARjSIGN YAKASHjABBREVIATION SIGN",
    "+11cJARATI SIGN CANDRABINDUoANUSVARAoVISARGA+2jLETTER ArAqIrIqUrUqVOCALIC RyLjVOWEL CANDRA E",
    "+2jLETTER EqAIjVOWEL CANDRA O+2jLETTER OqAUqKArHAqGArHAqNGAqCArHAqJArHAqNYAqTTAsHAqDDAsHAqNNA",
    "qTArHAqDArHAqNA+2qPArHAqBArHAqMAqYAqRA+2qLArLA+2qVAqSHArSArAqHA+3jSIGN NUKTAoAVAGRAHA",
    "jVOWEL SIGN AAuIvIuUvUuVOCALIC RbdRuCANDRA E+2uEuAIuCANDRA O+2uOuAUjSIGN VIRAMA+3jOM",
    "+16jLETTER VOCALIC RRyLLjVOWEL SIGN VOCALIC LbdL+3jDIGIT ZEROpONEpTWOqHREEpFOURqIVEpSIXqEVEN",
    "pEIGHTpNINEjABBREVIATION SIGNjRUPEE SIGN+8jLETTER ZHAjSIGN SUKUNpHADDAoMADDAH",
    "oTHREE-DOT NUKTA ABOVEoCIRCLE NUKTA ABOVEoTWO-CIRCLE NUKTA ABOVE+2aORIYA SIGN CANDRABINDU",
    "lANUSVARAlVISARGA+2gLETTER AoAnIoInUoUnVOCALIC RvL+3nEnAI+3nOnAUnKAoHAnGAoHAnNGAnCAoHAnJAoHA",
    "nNYAnTTApHAnDDApHAnNNAnTAoHAnDAoHAnNA+2nPAoHAnBAoHAnMAnYAnRA+2nLAoLA+2nVAnSHAoSAoAnHA",
    "+3gSIGN NUKTAlAVAGRAHAgVOWEL SIGN AArIsIrUsUrVOCALIC RbaR+3rErAI+3rOrAUgSIGN VIRAMA",
    "+8lOVERLINEgAI LENGTH MARKhU LENGTH MARK+5gLETTER RRAoHA+2nYYAnVOCALIC RRvLL",
    "gVOWEL SIGN VOCALIC LbaL+3gDIGIT ZEROmONEmTWOnHREEmFOURnIVEmSIXnEVENmEIGHTmNINEgISSHAR",
    "gLETTER WAgFRACTION ONE QUARTERtHALFpTHREE QUARTERSpONE SIXTEENTHtEIGHTHpTHREE SIXTEENTHS",
    "+11aTAMIL SIGN ANUSVARAlVISARGA+2gLETTER AoAnIoInUoU+4nEoEnAI+2nOoOnAUnKA+4nNGAnCA+2nJA+2nNYA",
    "nTTA+4nNNAnTA+4nNAoNNAnPA+4nMAnYAnRAoRAnLAoLApLAnVAnSHAoSAoAnHA+5gVOWEL SIGN AArIsIrUsU+4rEsE",
    "rAI+2rOsOrAUgSIGN VIRAMA+3gOM+7gAU LENGTH MARK+15gDIGIT ZEROmONEmTWOnHREEmFOURnIVEmSIXnEVEN",
    "mEIGHTmNINEgNUMBER TENnONE HUNDREDrTHOUSANDgDAY SIGNgMONTH SIGNgYEAR SIGNgDEBIT SIGN",
    "gCREDIT SIGNgAS ABOVE SIGNgRUPEE SIGNgNUMBER SIGN+6bELUGU SIGN COMBINING CANDRABINDU ABOVE",
    "nANDRABINDUmANUSVARAmVISARGAmCOMBINING ANUSVARA ABOVEhLETTER ApAoIpIoUpUoVOCALIC RwL+2oEpEoAI",
    "+2oOpOoAUoKApHAoGApHAoNGAoCApHAoJApHAoNYAoTTAqHAoDDAqHAoNNAoTApHAoDApHAoNA+2oPApHAoBApHAoMA",
    "oYAoRApRAoLApLAqLAoVAoSHApSApAoHA+3hSIGN NUKTAmAVAGRAHAhVOWEL SIGN AAsItIsUtUsVOCALIC RbbR",
    "+2sEtEsAI+2sOtOsAUhSIGN VIRAMA+8hLENGTH MARKhAI LENGTH MARK+2hLETTER TSAoDZAoRRRA",
    "+3oNAKAARA POLLU+3oVOCALIC RRwLLhVOWEL SIGN VOCALIC LbbL+3hDIGIT ZEROnONEnTWOoHREEnFOURoIVE",
    "nSIXoEVENnEIGHTnNINE+8hSIGN SIDDHAMhFRACTION DIGIT ZERO FOR ODD POWERS OF FOUR",
    "wONE FOR ODD POWERS OF FOURwTWO FOR ODD POWERS OF FOURxHREE FOR ODD POWERS OF FOUR",
    "wONE FOR EVEN POWERS OF FOURwTWO FOR EVEN POWERS OF FOURxHREE FOR EVEN POWERS OF FOUR",
    "hSIGN TUUMUaKANNADA SIGN SPACING CANDRABINDUnCANDRABINDUnANUSVARAnVISARGAnSIDDHAMiLETTER AqA",
    "pIqIpUqUpVOCALIC RxL+2pEqEpAI+2pOqOpAUpKAqHApGAqHApNGApCAqHApJAqHApNYApTTArHApDDArHApNNApTA",
    "qHApDAqHApNA+2pPAqHApBAqHApMApYApRAqRApLAqLA+2pVApSHAqSAqApHA+3iSIGN NUKTAnAVAGRAHA",
    "iVOWEL SIGN AAtIuItUuUtVOCALIC RbcR+2tEuEtAI+2tOuOtAUiSIGN VIRAMA+8iLENGTH MARK",
    "iAI LENGTH MARK+7iLETTER NAKAARA POLLUpFA+0pLLLA+2pVOCALIC RRxLLiVOWEL SIGN VOCALIC LbcL",
    "+3iDIGIT ZEROoONEoTWOpHREEoFOURpIVEoSIXpEVENoEIGHToNINE+2iSIGN JIHVAMULIYAnUPADHMANIYA",
    "+14aMALAYALAM SIGN COMBINING ANUSVARA ABOVEqANDRABINDUpANUSVARApVISARGAkLETTER VEDIC ANUSVARA",
    "rAsArIsIrUsUrVOCALIC RzL+2rEsErAI+2rOsOrAUrKAsHArGAsHArNGArCAsHArJAsHArNYArTTAtHArDDAtHArNNA",
    "rTAsHArDAsHArNAsNNArPAsHArBAsHArMArYArRAsRArLAsLAtLArVArSHAsSAsArHArTTTA",
    "kSIGN VERTICAL BAR VIRAMApCIRCULAR VIRAMApAVAGRAHAkVOWEL SIGN AAvIwIvUwUvVOCALIC RbeR+2vEwE",
    "vAI+2vOwOvAUkSIGN VIRAMAkLETTER DOT REPHkSIGN PARA+5kLETTER CHILLU MyYyLLLkAU LENGTH MARK",
    "kFRACTION ONE ONE-HUNDRED-AND-SIXTIETHxFORTIETHtTHREE EIGHTIETHStONE TWENTIETHyENTH",
    "tTHREE TWENTIETHStONE FIFTHkLETTER ARCHAIC IIrVOCALIC RRzLLkVOWEL SIGN VOCALIC LbeL",
    "+3kDIGIT ZEROqONEqTWOrHREEqFOURrIVEqSIXrEVENqEIGHTqNINEkNUMBER TENrONE HUNDREDvTHOUSAND",
    "kFRACTION ONE QUARTERxHALFtTHREE QUARTERStONE SIXTEENTHxEIGHTHtTHREE SIXTEENTHSkDATE MARK",
    "kLETTER CHILLU NNz+1yRRyLzLyK+2aSINHALA SIGN CANDRABINDUnANUSVARAYAnVISARGAYA+2iLETTER AYANNA",
    "qAYANNAqEYANNArEYANNApIYANNAqIYANNApUYANNAqUYANNApIRUYANNAsUYANNAqLUYANNAsUYANNApEYANNA",
    "qEYANNApAIYANNApOYANNAqOYANNApAUYANNA+4qLPAPRAANA KAYANNApMAHAAPRAANA KAYANNA",
    "pALPAPRAANA GAYANNApMAHAAPRAANA GAYANNApKANTAJA NAASIKYAYApSANYAKA GAYANNApALPAPRAANA CAYANNA",
    "pMAHAAPRAANA CAYANNApALPAPRAANA JAYANNApMAHAAPRAANA JAYANNApTAALUJA NAASIKYAYA",
    "xSANYOOGA NAAKSIKYAYApSANYAKA JAYANNApALPAPRAANA TTAYANNApMAHAAPRAANA TTAYANNA",
    "pALPAPRAANA DDAYANNApMAHAAPRAANA DDAYANNAqUURDHAJA NAYANNApSANYAKA DDAYANNA",
    "pALPAPRAANA TAYANNApMAHAAPRAANA TAYANNApALPAPRAANA DAYANNApMAHAAPRAANA DAYANNA",
    "pDANTAJA NAYANNA+2pSANYAKA DAYANNApALPAPRAANA PAYANNApMAHAAPRAANA PAYANNApALPAPRAANA BAYANNA",
    "pMAHAAPRAANA BAYANNArYANNApAMBA BAYANNApYAYANNApRAYANNA+2pDANTAJA LAYANNA+3pVAYANNA",
    "pTAALUJA SAYANNApMUURDHAJA SAYANNApDANTAJA SAYANNApHAYANNApMUURDHAJA LAYANNApFAYANNA",
    "+4iSIGN AL-LAKUNA+5iVOWEL SIGN AELA-PILLAtKETTI AEDA-PILLAtDIGA AEDA-PILLAtKETTI IS-PILLA",
    "tDIGA IS-PILLAtKETTI PAA-PILLA+2tDIGA PAA-PILLA+2tGAETTA-PILLAtKOMBUVAtDIGA KOMBUVA",
    "tKOMBU DEKAyVA HAA AELA-PILLAbfDIGA AELA-PILLAbfGAYANUKITTAtGAYANUKITTA+7iLITH DIGIT ZEROtONE",
    "tTWOuHREEtFOURuIVEtSIXuEVENtEIGHTtNINE+3iVOWEL SIGN DIGA GAETTA-PILLAbaYANUKITTA",
    "iPUNCTUATION KUNDDALIYA+13aTHAI CHARACTER KO KAIqHO KHAIvUATvWAIvONtRAKHANGpNGO NGUpCHO CHAN",
    "vINGvANGpSO SOpCHO CHOEpYO YINGpDO CHADApTO PATAKqHO THANtNANGMONTHOtPHUTHAOpNO NENpDO DEK",
    "pTO TAOqHO THUNGvAHANvONGpNO NUpBO BAIMAIpPO PLAqHO PHUNGpFO FApPHO PHANpFO FANpPHO SAMPHAO",
    "pMO MApYO YAKpRO RUAqUpLO LINGqUpWO WAENpSO SALAsRUSIsSUApHO HIPpLO CHULApO ANGpHO NOKHUK",
    "pPAIYANNOIpSARA ApMAI HAN-AKATpSARA AAvMuIvIuUEwEv+1vUpPHINTHU+5gURRENCY SYMBOL BAHT",
    "gHARACTER SARA EuAEuOuAI MAIMUANbbALAIpLAKKHANGYAOpMAIYAMOKsTAIKHUs EKtTHOuRItCHATTAWA",
    "pTHANTHAKHATpNIKHAHITpYAMAKKANpFONGMANfDIGIT ZEROlONElTWOmHREElFOURmIVElSIXmEVENlEIGHTlNINE",
    "fCHARACTER ANGKHANKHUpKHOMUT+38aLAO LETTER KOmHO SUNG+2pTAM+2lPALI GHAlNGOlCOlPALI CHAlSO TAM",
    "+2lPALI JHAlNYOlPALI NYAqTTAsHAqDDAsHAqNNAlDOlTOmHO SUNGpTAMlPALI DHAlNOlBOlPOmHO SUNGlFO FON",
    "+0oTAMlPHO TAMlFO FAY+0oSUNGlPALI BHAlMOlYOlLO LING+0lRO+2lLO+0n LOOT+2lWOlSANSKRIT SHAvSA",
    "mO SUNGlHO SUNGlPALI LLAlOlHO TAMeELLIPSISeVOWEL SIGN ApMAI KANpAAqMpIqIpYqYpUqU",
    "eSIGN PALI VIRAMAeVOWEL SIGN MAI KONeSEMIVOWEL SIGN LOtNYO+3eVOWEL SIGN EqIpOpAYqI+2eKO LA",
    "+2eTONE MAI EKnTHOoInCATAWAeCANCELLATION MARKeNIGGAHITA+3eDIGIT ZEROkONEkTWOlHREEkFOURlIVE",
    "kSIXlEVENkEIGHTkNINE+3eHO NOhMOeLETTER KHMU GOqNYO+33aTIBETAN SYLLABLE OM",
    "iMARK GTER YIG MGO TRUNCATED Aba-UM RNAM BCAD MAbeGTER TSHEG MAnINITIAL YIG MGO MDUN MA",
    "nCLOSING YIG MGO SGAB MAoARET YIG MGO PHUR SHAD MAnYIG MGO TSHEG SHAD MAnSBRUL SHAD",
    "nBSKUR YIG MGOoKA- SHOG YIG MGOnINTERSYLLABIC TSHEGnDELIMITER TSHEG BSTARnSHADnNYIS SHAD",
    "nTSHEG SHADnNYIS TSHEG SHADnRIN CHEN SPUNGS SHADoGYA GRAM SHADnCARET -DZUD RTAGS ME LONG CAN",
    "nGTER TSHEGiLOGOTYPE SIGN CHAD RTAGSwLHAG RTAGSiASTROLOGICAL SIGN SGRA GCAN -CHAR RTAGS",
    "ba-KHYUD PAbaSDONG TSHUGSiSIGN RDEL DKAR GCIGyNYISySUMsNAG GCIGxNYISsDKAR RDEL NAGiDIGIT ZERO",
    "oONEoTWOpHREEoFOURpIVEoSIXpEVENoEIGHToNINEoHALF ONEtTWOuHREEtFOURuIVEtSIXuEVENtEIGHTtNINE",
    "tZEROiMARK BSDUS RTAGSnNGAS BZUNG NYI ZLAnCARET -DZUD RTAGS BZHI MIG CAN",
    "nNGAS BZUNG SGOR RTAGSnCHE MGOnTSA -PHRUnGUG RTAGS GYONzASnANG KHANG GYONzASiSIGN YAR TSHES",
    "nMAR TSHESiLETTER KAqHApGAqHApNGApCAqHApJA+2pNYApTTArHApDDArHApNNApTAqHApDAqHApNApPAqHApBAqHA",
    "pMApTSArHApDZArHApWApZHAqAp-ApYApRApLApSHAqSAqApHApApKSSApFIXED-FORM RApKKApRRA",
    "+5iVOWEL SIGN AAtIuItUuUtVOCALIC RbcRbbLbcLtEuEtOuOiSIGN RJES SU NGA ROoNAM BCAD",
    "iVOWEL SIGN REVERSED IbdIiSIGN NYI ZLA NAA DAnSNA LDANiMARK HALANTAnPALUTAiSIGN LCI RTAGS",
    "nYANG RTAGSnLCE TSA CANnMCHU CANnGRU CAN RGYINGSrMED RGYINGSnINVERTED MCHU CAN",
    "jUBJOINED SIGN LCE TSA CANxMCHU CANxINVERTED MCHU CANsLETTER KAbaHAzGAbaHAzNGAzCAbaHAzJA",
    "+2zNYAzTTAbbHAzDDAbbHAzNNAzTAbaHAzDAbaHAzNAzPAbaHAzBAbaHAzMAzTSAbbHAzDZAbbHAzWAzZHAbaAz-AzYA",
    "zRAzLAzSHAbaSAbaAzHAzAzKSSAzFIXED-FORM WAbkYAbkRA+2iKU RU KHAr BZHI MIG CAN",
    "iCANTILLATION SIGN HEAVY BEATbaLIGHT BEATbaCANG TE-UbaSBUB -CHALiSYMBOL DRIL BUpRDO RJE",
    "pPADMA GDANpRDO RJE RGYA GRAMpPHUR PApNOR BUv NYIS -KHYILwGSUM -KHYILwBZHI -KHYIL",
    "+2jIGN RDEL NAG RDEL DKARwGSUMiMARK BKA- SHOG GI MGO RGYAN+0oSKA- SHOG GI MGO RGYAN",
    "nMNYAM YIG GI MGO RGYANnNYIS TSHEGnINITIAL BRDA RNYING YIG MGO MDUN MA",
    "nCLOSING BRDA RNYING YIG MGO SGAB MAaRIGHT-FACING SVASTI SIGNaLEFT-FACING SVASTI SIGN",
    "aRIGHT-FACING SVASTI SIGN WITH DOTSaLEFT-FACING SVASTI SIGN WITH DOTS",
    "aTIBETAN MARK LEADING MCHAN RTAGSnTRAILING MCHAN RTAGS+38aMYANMAR LETTER KAqHApGAqHApNGApCA",
    "qHApJAqHApNYAqNYApTTArHApDDArHApNNApTAqHApDAqHApNApPAqHApBAqHApMApYApRApLApWApSApHApLLApA",
    "pSHAN ApIqIpUqUpEpMON EpOpAUiVOWEL SIGN TALL AAtAAtIuItUuUtEtAItMON IIxOtE ABOVE",
    "iSIGN ANUSVARAnDOT BELOWnVISARGApRAMAnASATiCONSONANT SIGN MEDIAL YAbeRAbeWAbeHA",
    "iLETTER GREAT SAiDIGIT ZEROoONEoTWOpHREEoFOURpIVEoSIXpEVENoEIGHToNINEiSIGN LITTLE SECTION",
    "nSECTIONjYMBOL LOCATIVEpCOMPLETEDpAFOREMENTIONEDpGENITIVEiLETTER SHAqSApVOCALIC RyRxLyL",
    "iVOWEL SIGN VOCALIC RbcRbbLbcLiLETTER MON NGAtJHAtBBAvEiCONSONANT SIGN MON MEDIAL NAbiMAbiLA",
    "iLETTER SGAW KAREN SHAiVOWEL SIGN SGAW KAREN EUiTONE MARK SGAW KAREN HATHIbdKE PHO",
    "iLETTER WESTERN PWO KAREN THAbhPWAiVOWEL SIGN WESTERN PWO KAREN EUblUE",
    "iSIGN WESTERN PWO KAREN TONE-1bk2bk3bk4bk5iLETTER EASTERN PWO KAREN NNAbhYWAbhGHWA",
    "iVOWEL SIGN GEBA KAREN ItKAYAH OEzUzEEiLETTER SHAN KAvHAuGAuCAuZAuNYAuDAuNAuPHAuFAuBAuTHAuHA",
    "iCONSONANT SIGN SHAN MEDIAL WAiVOWEL SIGN SHAN AAyEz ABOVEyFINAL YiSIGN SHAN TONE-2x3x5x6",
    "sCOUNCIL TONE-2bf3baEMPHATIC TONEiLETTER RUMAI PALAUNG FAiSIGN RUMAI PALAUNG TONE-5",
    "jHAN DIGIT ZEROtONEtTWOuHREEtFOURuIVEtSIXuEVENtEIGHTtNINEjIGN KHAMTI TONE-1z3",
    "iVOWEL SIGN AITON AbaIiSYMBOL SHAN ONEuEXCLAMATIONaGEORGIAN CAPITAL LETTER ANyBANyGANyDONyEN",
    "yVINyZENyTANyINyKANyLASyMANyNARyONyPARyZHARyRAEySANyTARyUNyPHARyKHARyGHANyQARySHINyCHINzAN",
    "yJILyCILzHARyXANyJHANyHAEzEzIEyWEyHARzOE+2yYN+6yAEN+3jLETTER ANqBANqGANqDONqENqVINqZENqTANqIN",
    "qKANqLASqMANqNARqONqPARqZHARqRAEqSANqTARqUNqPHARqKHARqGHANqQARqSHINqCHINrANqJILqCILrHARqXAN",
    "qJHANqHAErErIEqWEqHARrOEqFIqYNqELIFIqTURNED GANqAINjPARAGRAPH SEPARATOR",
    "aMODIFIER LETTER GEORGIAN NARaGEORGIAN LETTER AENqHARD SIGNqLABIAL SIGN",
    "aHANGUL CHOSEONG KIYEOKqSSANGKIYEOKqNIEUNqTIKEUTqSSANGTIKEUTqRIEULqMIEUMqPIEUPqSSANGPIEUPrIOS",
    "rSANGSIOSqIEUNGqCIEUCqSSANGCIEUCqCHIEUCHqKHIEUKHqTHIEUTHqPHIEUPHqHIEUHqNIEUN-KIYEOK",
    "qSSANGNIEUNqNIEUN-TIKEUTwPIEUPqTIKEUT-KIYEOKqRIEUL-NIEUNqSSANGRIEULqRIEUL-HIEUHqKAPYEOUNRIEUL",
    "qMIEUM-PIEUPqKAPYEOUNMIEUMqPIEUP-KIYEOKwNIEUNwTIKEUTwSIOSba-KIYEOKbbTIKEUTbbPIEUPxSANGSIOS",
    "xIOS-CIEUCwCIEUCxHIEUCHwTHIEUTHwPHIEUPHqKAPYEOUNPIEUPySSANGPIEUPqSIOS-KIYEOKvNIEUNvTIKEUT",
    "vRIEULvMIEUMvPIEUPba-KIYEOKvSSANGSIOSvIEUNGvCIEUCwHIEUCHvKHIEUKHvTHIEUTHvPHIEUPHvHIEUH",
    "qCHITUEUMSIOSzSANGSIOSrEONGCHIEUMSIOSbcSANGSIOSqPANSIOSqIEUNG-KIYEOKwTIKEUTwMIEUMwPIEUPwSIOS",
    "wPANSIOSqSSANGIEUNGqIEUNG-CIEUCxHIEUCHwTHIEUTHwPHIEUPHqYESIEUNGqCIEUC-IEUNGrHITUEUMCIEUC",
    "ySSANGCIEUCrEONGCHIEUMCIEUCbbSSANGCIEUCrHIEUCH-KHIEUKHyHIEUHtTUEUMCHIEUCHrEONGCHIEUMCHIEUCH",
    "qPHIEUPH-PIEUPqKAPYEOUNPHIEUPHqSSANGHIEUHqYEORINHIEUHqKIYEOK-TIKEUTqNIEUN-SIOSwCIEUCwHIEUH",
    "qTIKEUT-RIEULqFILLERhJUNGSEONG FILLERrAsErYAtErEOs+1rYEOt+1rOrWAtErOErYOrUrWEOt+1sIrYUrEUrYI",
    "rIrA-OtUrYA-OuYOrEO-OuUuEUrYEO-OvUrO-EOu+1tYEtOtUrYO-YAwEvEOuOuIrU-AuEtEO-EUtYEtUrYU-AuEOv",
    "+1uYEOw+1uUuIrEU-UuEUrYI-UrI-AtYAtOtUtEUtARAEArARAEAw-EOxUxIrSSANGARAEArA-EUrYA-UsEO-YArO-YA",
    "vEiONGSEONG KIYEOKrSSANGKIYEOKrKIYEOK-SIOSrNIEUNw-CIEUCxHIEUHrTIKEUTrRIEULw-KIYEOKxMIEUM",
    "xPIEUPxSIOSxTHIEUTHxPHIEUPHxHIEUHrMIEUMrPIEUPw-SIOSrSIOSsSANGSIOSrIEUNGrCIEUCsHIEUCHrKHIEUKH",
    "rTHIEUTHrPHIEUPHrHIEUHrKIYEOK-RIEULySIOS-KIYEOKrNIEUN-KIYEOKxTIKEUTxSIOSxPANSIOSxTHIEUTH",
    "rTIKEUT-KIYEOKyRIEULrRIEUL-KIYEOK-SIOSxNIEUNxTIKEUTbd-HIEUHrSSANGRIEULrRIEUL-MIEUM-KIYEOK",
    "bdSIOSxPIEUP-SIOSbdHIEUHxKAPYEOUNPIEUPxSSANGSIOSxPANSIOSxKHIEUKHxYEORINHIEUHrMIEUM-KIYEOK",
    "xRIEULxPIEUPxSIOSySANGSIOSxPANSIOSxCHIEUCHxHIEUHrKAPYEOUNMIEUMrPIEUP-RIEULxPHIEUPHxHIEUH",
    "rKAPYEOUNPIEUPrSIOS-KIYEOKwTIKEUTwRIEULwPIEUPrPANSIOSrIEUNG-KIYEOK+0rYESIEUNG-KIYEOK",
    "rIEUNG-SSANGKIYEOK+0rYESIEUNG-SSANGKIYEOKrSSANGIEUNG+0wYESIEUNGrIEUNG-KHIEUKH",
    "+0rYESIEUNG-KHIEUKHz+1z-SIOSbaPANSIOSrPHIEUPH-PIEUPrKAPYEOUNPHIEUPHrHIEUH-NIEUNxRIEULxMIEUM",
    "xPIEUPrYEORINHIEUHrKIYEOK-NIEUNyPIEUPyCHIEUCHyKHIEUKHyHIEUHrSSANGNIEUNaETHIOPIC SYLLABLE HAtU",
    "tItAAtEEu+1tOuAsLAtUtItAAtEEu+1tOtWAsHHAuUuIuAAuEEv+1uOuWAsMAtUtItAAtEEu+1tOtWAsSZAuUuIuAAuEE",
    "v+1uOuWAsRAtUtItAAtEEu+1tOtWAsSAtUtItAAtEEu+1tOtWAtHAuUuIuAAuEEv+1uOuWAsQAtUtItAAtEEu+1tOuA",
    "tWA+2uIuAAuEEv+3tHAuUuIuAAuEEv+1uO+2uWA+2vIvAAvEEw+3sBAtUtItAAtEEu+1tOtWAsVAtUtItAAtEEu+1tO",
    "tWAsTAtUtItAAtEEu+1tOtWAsCAtUtItAAtEEu+1tOtWAsXAtUtItAAtEEu+1tOuAtWA+2uIuAAuEEv+3sNAtUtItAA",
    "tEEu+1tOtWAtYAuUuIuAAuEEv+1uOuWAsGLOTTAL AbaUbaIbaAAbaEEbb+1baObaWAsKAtUtItAAtEEu+1tOuAtWA",
    "+2uIuAAuEEv+3tXAuUuIuAAuEEv+1uO+2uWA+2vIvAAvEEw+3sWAtUtItAAtEEu+1tOuAsPHARYNGEAL AbdUbdIbdAA",
    "bdEEbe+1bdO+2sZAtUtItAAtEEu+1tOtWAtHAuUuIuAAuEEv+1uOuWAsYAtUtItAAtEEu+1tOuAsDAtUtItAAtEEu+1tO",
    "tWAtDAuUuIuAAuEEv+1uOuWAsJAtUtItAAtEEu+1tOtWAsGAtUtItAAtEEu+1tOuAtWA+2uIuAAuEEv+3tGAuUuIuAA",
    "uEEv+1uOuWAAsTHAuUuIuAAuEEv+1uOuWAsCHAuUuIuAAuEEv+1uOuWAsPHAuUuIuAAuEEv+1uOuWAsTSAuUuIuAAuEEv",
    "+1uOuWAtZAuUuIuAAuEEv+1uOvAsFAtUtItAAtEEu+1tOtWAsPAtUtItAAtEEu+1tOtWAsRYAsMYAsFYA",
    "+3jCOMBINING GEMINATION AND VOWEL LENGTH MARKtVOWEL LENGTH MARKtGEMINATION MARKjSECTION MARK",
    "jWORDSPACEjFULL STOPjCOMMAjSEMICOLONjCOLONjPREFACE COLONjQUESTION MARKjPARAGRAPH SEPARATOR",
    "jDIGIT ONEpTWOqHREEpFOURqIVEpSIXqEVENpEIGHTpNINEjNUMBER TENrWENTYrHIRTYqFORTYrIFTYqSIXTY",
    "rEVENTYqEIGHTYqNINETYqHUNDREDqTEN THOUSAND+4jSYLLABLE SEBATBEIT MWAsMWIuEEv+1sSEBATBEIT BWA",
    "sBWIuEEv+1sSEBATBEIT FWAsFWIuEEv+1sSEBATBEIT PWAsPWIuEEv+1jTONAL MARK YIZETuDERETuRIKRIK",
    "uSHORT RIKRIKuDIFATuKENATuCHIRETuHIDETuDERET-HIDETuKURT+7aCHEROKEE LETTER AqEqIqOqUqVqGAqKA",
    "qGErIrOrUrVqHArErIrOrUrVqLArErIrOrUrVqMArErIrOrUqNAqHNAqNAHrErIrOrUrVqQUAsEsIsOsUsVqSAr+1rErI",
    "rOrUrVqDAqTAqDEqTEqDIqTIqDOrUrVrLAqTLAsEsIsOsUsVrSAsEsIsOsUsVqWArErIrOrUrVqYArErIrOrUrVqMV",
    "+3jSMALL LETTER YExIxOxUxVwMV+3bANADIAN SYLLABICS HYPHENtEtAAItIuItOuOtY-CREE OOtCARRIER EE",
    "bbItAuAtWEvST-CREE WEuIuEST-CREE WIuIIuEST-CREE WIIuOuEST-CREE WOuOOuEST-CREE WOOtNASKAPI WOO",
    "tWAuEST-CREE WAuAAuEST-CREE WAAtNASKAPI WAAtAItY-CREE WtGLOTTAL STOPtFINAL ACUTEzGRAVE",
    "zBOTTOM HALF RINGzTOP HALF RINGzRIGHT HALF RINGbbNGzDOUBLE ACUTEbgSHORT VERTICAL STROKES",
    "zMIDDLE DOTzSHORT HORIZONTAL STROKEzPLUSzDOWN TACKtENtINtONtANtPEuAAIuIvIuOvOtY-CREE POO",
    "tCARRIER HEEbcItPAvAuWEtWEST-CREE PWEtPWItWEST-CREE PWItPWIItWEST-CREE PWIItPWOtWEST-CREE PWO",
    "tPWOOtWEST-CREE PWOOtPWAtWEST-CREE PWAtPWAAtWEST-CREE PWAAtY-CREE PWAAtPtWEST-CREE P",
    "tCARRIER HtTEuAAIuIvIuOvOtY-CREE TOOtCARRIER DEEbcItTAvAuWEtWEST-CREE TWEtTWItWEST-CREE TWI",
    "tTWIItWEST-CREE TWIItTWOtWEST-CREE TWOtTWOOtWEST-CREE TWOOtTWAtWEST-CREE TWAtTWAA",
    "tWEST-CREE TWAAtNASKAPI TWAAtTuTEvIvOvAtKEuAAIuIvIuOvOtY-CREE KOOtKAvAuWEtWEST-CREE KWEtKWI",
    "tWEST-CREE KWItKWIItWEST-CREE KWIItKWOtWEST-CREE KWOtKWOOtWEST-CREE KWOOtKWAtWEST-CREE KWA",
    "tKWAAtWEST-CREE KWAAtNASKAPI KWAAtKuWtSOUTH-SLAVEY KEHbhIHbhOHbhAHtCEuAAIuIvIuOvOtY-CREE COO",
    "tCAvAuWEtWEST-CREE CWEtCWItWEST-CREE CWItCWIItWEST-CREE CWIItCWOtWEST-CREE CWOtCWOO",
    "tWEST-CREE CWOOtCWAtWEST-CREE CWAtCWAAtWEST-CREE CWAAtNASKAPI CWAAtCtSAYISI THtMEuAAIuIvIuOvO",
    "tY-CREE MOOtMAvAuWEtWEST-CREE MWEtMWItWEST-CREE MWItMWIItWEST-CREE MWIItMWOtWEST-CREE MWO",
    "tMWOOtWEST-CREE MWOOtMWAtWEST-CREE MWAtMWAAtWEST-CREE MWAAtNASKAPI MWAAtMtWEST-CREE MtMH",
    "tATHAPASCAN MtSAYISI MtNEuAAIuIvIuOvOtY-CREE NOOtNAvAuWEtWEST-CREE NWEtNWAtWEST-CREE NWAtNWAA",
    "tWEST-CREE NWAAtNASKAPI NWAAu+1tCARRIER NGtNHtLEuAAIuIvIuOvOtY-CREE LOOtLAvAuWEtWEST-CREE LWE",
    "tLWItWEST-CREE LWItLWIItWEST-CREE LWIItLWOtWEST-CREE LWOtLWOOtWEST-CREE LWOOtLWA",
    "tWEST-CREE LWAtLWAAtWEST-CREE LWAAtLtWEST-CREE LtMEDIAL LtSEuAAIuIvIuOvOtY-CREE SOOtSAvAuWE",
    "tWEST-CREE SWEtSWItWEST-CREE SWItSWIItWEST-CREE SWIItSWOtWEST-CREE SWOtSWOOtWEST-CREE SWOO",
    "tSWAtWEST-CREE SWAtSWAAtWEST-CREE SWAAtNASKAPI SWAAtStATHAPASCAN StSWtBLACKFOOT S",
    "tMOOSE-CREE SKtNASKAPI SKWbc-WbcPWAbcTWAbcKWAbcCWAtSHEvIwIvOwOvAwAvWEtWEST-CREE SHWEtSHWI",
    "tWEST-CREE SHWItSHWIItWEST-CREE SHWIItSHWOtWEST-CREE SHWOtSHWOOtWEST-CREE SHWOOtSHWA",
    "tWEST-CREE SHWAtSHWAAtWEST-CREE SHWAAtSHtYEuAAIuIvIuOvOu-CREE YOOuAvAuWEtWEST-CREE YWEtYWI",
    "tWEST-CREE YWItYWIItWEST-CREE YWIItYWOtWEST-CREE YWOtYWOOtWEST-CREE YWOOtYWAtWEST-CREE YWA",
    "tYWAAtWEST-CREE YWAAtNASKAPI YWAAtYtBIBLE-CREE YtWEST-CREE YtSAYISI YItREu-CREE RE",
    "tWEST-CREE LEtRAAIuIvIuOvOtWEST-CREE LOtRAvAtWEST-CREE LAtRWAAtWEST-CREE RWAAtRtWEST-CREE R",
    "tMEDIAL RtFEuAAIuIvIuOvOuAvAuWAAtWEST-CREE FWAAtFtTHEtN-CREE THEtTHItN-CREE THItTHII",
    "tN-CREE THIItTHOwOvAwAvWAAtWEST-CREE THWAAtTHuTHEwIwOwAw+1uYEvIvOvAtNUNAVIK HEbcIbdIbcObdObcA",
    "bdAbc+1yUT HtHKtQAAIuIvIuOvOuAvAu+1tTLHEwIwOwAtWEST-CREE REbeIbeObeAtNGAAIvIwIvOwOvAwAv+1uNG",
    "tSAYISI SHEbcIbcObcAtWOODS-CREE THEbgIbgObgAbg+1tLHIwIvOwOvAwAv+1tTH-CREE THEbdIbeIbdObeObdA",
    "beAbd+1tAIVILIK BtBLACKFOOT EbdIbdObdAbdWEbeIbeObeAbdNEbeIbeObeAbdKEbeIbeObeAtSAYISI HEbbIbbO",
    "bbAtCARRIER GHUbdObdEbeEbdIbdAbbRUbcObcEbdEbcIbcAbbWUbcObcEbdEbcIbcAbbHWUbdObdEbeEbdIbdAbbTHU",
    "bdObdEbeEbdIbdAbcTUbdObdEbeEbdIbdAbbPUbcObcEbdEbcIbcAbc+1bbGUbcObcEbdEbcIbcAbbKHUbdObdEbeEbdI",
    "bdAbcKUbdObdEbeEbdIbdAbd+1bbNUbcObcEbdEbcIbcAbbMUbcObcEbdEbcIbcAbbYUbcObcEbdEbcIbcAbbJU",
    "tSAYISI JUtCARRIER JObcEbdEbcItSAYISI JItCARRIER JAbcJUbdObdEbeEbdIbdAbbLUbcObcEbdEbcIbcA",
    "bbDLUbdObdEbeEbdIbdAbbLHUbdObdEbeEbdIbdAbbTLHUbeObeEbfEbeIbeAbdUbdObdEbeEbdIbdAbbZUbcObcEbdE",
    "bcIbcAbc+1bbINITIAL ZbbDZUbdObdEbeEbdIbdAbbSUbcObcEbdEbcIbcAbcHUbdObdEbeEbdIbdAbd+1bbTSUbdO",
    "bdEbeEbdIbdAbbCHUbdObdEbeEbdIbdAbbTTSUbeObeEbfEbeIbeAuHI SIGNtFULL STOPtQAItNGAIuNGIxIwOxOwA",
    "xAtWOODS-CREE THWEEbhIbiIbhObiObhAbiAbeFINAL THtBLACKFOOT WaOGHAM SPACE MARKgLETTER BEITH",
    "nLUISnFEARNnSAILnNIONnUATHnDAIRnTINNEnCOLLoEIRTnMUINnGORTnNGEADALnSTRAIFnRUISnAILMnONNnUR",
    "nEADHADHnIODHADHnEABHADHnORnUILLEANNnIFINnEAMHANCHOLLnPEITHgFEATHER MARK",
    "gREVERSED FEATHER MARK+4aRUNIC LETTER FEHU FEOH FE FnVnURUZ UR UnYRo+1nWnTHURISAZ THURS THORN",
    "nETHnANSUZ AnOS OnAC AoESCnLONG-BRANCH-OSS OnSHORT-TWIG-OSS OnOoEoNnRAIDO RAD REID RnKAUNA",
    "nCENnKAUN KnGnENGnGEBO GYFU GoARnWUNJO WYNN WnHAGLAZ HpEGL HnLONG-BRANCH-HAGALL H",
    "nSHORT-TWIG-HAGALL HnNAUDIZ NYD NAUD NnSHORT-TWIG-NAUD NnDOTTED-NnISAZ IS ISS InEnJERAN JnGER",
    "nLONG-BRANCH-AR AEnSHORT-TWIG-AR AnIWAZ EOHnPERTHO PEORTH PnALGIZ EOLHXnSOWILO S",
    "oIGEL LONG-BRANCH-SOL SoHORT-TWIG-SOL SnCnZnTIWAZ TIR TYR TnSHORT-TWIG-TYR TnD",
    "nBERKANAN BEORC BJARKAN BnSHORT-TWIG-BJARKAN BnDOTTED-PnOPEN-PnEHWAZ EH EnMANNAZ MAN M",
    "nLONG-BRANCH-MADR MnSHORT-TWIG-MADR MnLAUKAZ LAGU LOGR LnDOTTED-LnINGWAZq+1nDAGAZ DAEG D",
    "nOTHALAN ETHEL OnEARnIORnCWEORTHoALCoEALCnSTANnLONG-BRANCH-YRnSHORT-TWIG-YRnICELANDIC-YRnQnX",
    "gSINGLE PUNCTUATIONgMULTIPLE PUNCTUATIONgCROSS PUNCTUATIONgARLAUG SYMBOLgTVIMADUR SYMBOL",
    "gBELGTHOR SYMBOLgLETTER KnSHnOOnFRANKS CASKET OSbbISbbEHbbACbcESC+8aTAGALOG LETTER ApIpUpKA",
    "pGApNGApTApDApNApPApBApMApYApRApLApWApSApHAiVOWEL SIGN ItUiSIGN VIRAMAnPAMUDPOD",
    "+10iLETTER ARCHAIC RAaHANUNOO LETTER ApIpUpKApGApNGApTApDApNApPApBApMApYApRApLApWApSApHA",
    "iVOWEL SIGN ItUiSIGN PAMUDPODaPHILIPPINE SINGLE PUNCTUATIONlDOUBLE PUNCTUATION",
    "+10aBUHID LETTER AnInUnKAnGAnNGAnTAnDAnNAnPAnBAnMAnYAnRAnLAnWAnSAnHAgVOWEL SIGN IrU",
    "+13aTAGBANWA LETTER AqIqUqKAqGAqNGAqTAqDAqNAqPAqBAqMAqYA+2qLAqWAqSA+2jVOWEL SIGN IuU",
    "+13aKHMER LETTER KAoHAoOoHOnNGOnCAoHAoOoHOnNYOnDAnTTHAnDOnTTHOnNNOnTAoHAoOoHOnNOnBAnPHAoOoHO",
    "nMOnYOnROnLOnVOnSHAoSOoAnHAnLAnQAgINDEPENDENT VOWEL QAQbaAzIbaIzUbaKbaUbbVyRYbaYyLYbaYyQEzAI",
    "zOO TYPE ONEbhTWOzAUgVOWEL INHERENT AQwAmSIGN AArIsIrYsYrUsUsArOErYArIErErAEsIrOOrAU",
    "gSIGN NIKAHITlREAHMUKlYUUKALEAPINTUlMUUSIKATOANlTRIISAPlBANTOClROBATlTOANDAKHIATlKAKABAT",
    "lAHSDAlSAMYOK SANNYAlVIRIAMlCOENGlBATHAMASATlKHANlBARIYOOSANlCAMNUC PII KUUHlLEK TOOlBEYYAL",
    "lPHNAEK MUANlKOOMUUTgCURRENCY SYMBOL RIELgSIGN AVAKRAHASANYAmTTHACAN+3gDIGIT ZEROmONEmTWO",
    "nHREEmFOURnIVEmSIXnEVENmEIGHTmNINE+7gSYMBOL LEK ATTAK SONxMUOYxPIIxBEIyUONxPRAMbb-MUOYbcPII",
    "bcBEIbdUON+7aMONGOLIAN BIRGAkELLIPSISkCOMMAkFULL STOPkCOLONkFOUR DOTSkTODO SOFT HYPHEN",
    "kSIBE SYLLABLE BOUNDARY MARKERkMANCHU COMMArFULL STOPkNIRUGUaFVS1",
    "+0aMONGOLIAN FREE VARIATION SELECTOR ONEaFVS2+0aMONGOLIAN FREE VARIATION SELECTOR TWOaFVS3",
    "+0aMONGOLIAN FREE VARIATION SELECTOR THREEkVOWEL SEPARATOR+0bVSaFVS4",
    "+0aMONGOLIAN FREE VARIATION SELECTOR FOURkDIGIT ZEROqONEqTWOrHREEqFOURrIVEqSIXrEVENqEIGHT",
    "qNINE+7kLETTER ArErIrOrUrOErUErEErNArANGrBArPArQArGArMArLArSAsHArTArDArCHArJArYArRArWArFArKA",
    "sHArTSArZArHAArZRArLHArZHIrCHIrTODO LONG VOWEL SIGNwEwIwOwUwOEwUEwANGwBAwPAwQAwGAwMAwTAwDA",
    "wCHAwJAwTSAwYAwWAwKAwGAAwHAAwJIAwNIAwDZArSIBE EwIxYwUEx+1wANGwKAwGAwHAwPAwSHAwTAwDAwJAwFAwGAA",
    "wHAAwTSAwZAwRAAwCHAwZHArMANCHU IyKAyRAyFAyZHArCHA WITH TWO DOTS+8rALI GALI ANUSVARA ONE",
    "baVISARGA ONEbaDAMARUbaUBADAMAbaINVERTED UBADAMAbaBALUDAbaTHREE BALUDAbaAbaIbaKAbaNGAbaCA",
    "baTTAbcHAbaDDAbaNNAbaTAbaDAbaPAbbHAbaSSAbaZHAbbAbaAHrTODO ALI GALI TAbfZHA",
    "rMANCHU ALI GALI GHAbhNGAbhCAbhJHAbhTTAbhDDHAbhTAbhDHAbhSSAbhCYAbhZHAbiArALI GALI HALF UbfYA",
    "rMANCHU ALI GALI BHArALI GALI DAGALGArMANCHU ALI GALI LHA+6aCANADIAN SYLLABICS OYtAYuAYtWAY",
    "tPOYuAYuWOYtTAYtKAYuWAYtMAYtNOYuAYtLAYtSOYuAYuHOYvAYvWOYtYOYuAYtRAYtNWItOJIBWAY NWItNWII",
    "tOJIBWAY NWIItNWOtOJIBWAY NWOtNWOOtOJIBWAY NWOOtRWEEvIwIvOwOvAtOJIBWAY PbbTbbKbbCbbMbbNbbSbcH",
    "tEASTERN WtWESTERN WtFINAL SMALL RINGzRAISED DOTtR-CREE RWEtWEST-CREE LOObeAAtTHWEwAuTHWEwOO",
    "wAAuLHWEwOOtSAYISI SHWEbcOObaHOOtCARRIER GWUbbDENE GEEbbGAAbcWAtSAYISI JUUtCARRIER JWA",
    "tBEAVER DENE LbfRtCARRIER DENTAL S+11aLIMBU VOWEL-CARRIER LETTERgLETTER KAoHAnGAoHAnNGAnCAoHA",
    "nJAoHAnYANnTAoHAnDAoHAnNAnPAoHAnBAoHAnMAnYAnRAnLAnWAnSHAoSAoAnHAnGYANnTRA+2gVOWEL SIGN ArIrU",
    "rEErAIrOOrAUrErOgSUBJOINED LETTER YAxRAxWA+5hMALL LETTER KAtNGAtANUSVARAtTAtNAtPAtMAtRAtLA",
    "hIGN MUKPHRENGlKEMPHRENGlSA-I+5lLOO+4gEXCLAMATION MARKgQUESTION MARKgDIGIT ZEROmONEmTWOnHREE",
    "mFOURnIVEmSIXnEVENmEIGHTmNINEaTAI LE LETTER KAoXAoNGAoTSAoSAoYAoTApHAoLAoPApHAoMAoFAoVAoHAoQA",
    "oKHAoTSHAoNAoAoIoEEpHoUoOOp+1oUEoEoAUEpI+3oTONE-2t3t4t5t6+12aNEW TAI LUE LETTER HIGH QA",
    "tLOW QAtHIGH KAyXAyNGAtLOW KAxXAxNGAtHIGH TSAySAyYAtLOW TSAxSAxYAtHIGH TAzHAyNAtLOW TAyHAxNA",
    "tHIGH PAzHAyMAtLOW PAyHAxMAtHIGH FAyVAyLAtLOW FAxVAxLAtHIGH HAyDAyBAtLOW HAxDAxBAtHIGH KVA",
    "yXVAtLOW KVAxXVAtHIGH SUAtLOW SUA+5mVOWEL SIGN VOWEL SHORTENERxAAxIIxUyUxExAExOyAxUExAYyAYxUY",
    "xOYyAYxUEYxIYmLETTER FINAL VzNGba+1zMzKzDzBmTONE MARK-1w2+7mDIGIT ZEROsONEsTWOtHREEsFOURtIVE",
    "sSIXtEVENsEIGHTsNINEmTHAM DIGIT ONE+4mSIGN LAEuVaKHMER SYMBOL PATHAMASATnMUOY KOETnPII KOET",
    "nBEI KOEToUON KOETnPRAM KOETr-MUOY KOETsPII KOETsBEI KOETtUON KOETnDAP KOETq-MUOY KOET",
    "rPII KOETrBEI KOETsUON KOETrPRAM KOETnTUTEYASATnMUOY ROCnPII ROCnBEI ROCoUON ROCnPRAM ROC",
    "r-MUOY ROCsPII ROCsBEI ROCtUON ROCnDAP ROCq-MUOY ROCrPII ROCrBEI ROCsUON ROCrPRAM ROC",
    "aBUGINESE LETTER KAqGAqNGAsKAqPAqBAqMArPAqTAqDAqNArRAqCAqJAqNYAsCAqYAqRAqLAqVAqSAqAqHA",
    "jVOWEL SIGN IuUuEuOuAE+3jPALLAWAjEND OF SECTIONaTAI THAM LETTER HIGH KAwHAwXAqLOW KAvXAvHA",
    "qNGAqHIGH CAwHAqLOW CAuSAuCHAqNYAqRATAqHIGH RATHAqDAqLOW RATHAqRANAqHIGH TAwHAqLOW TAvHAqNA",
    "qBAqHIGH PAwHAvFAqLOW PAuFAuPHAqMAqLOW YAqHIGH YAqRArUEqLArUEqWAqHIGH SHAwSAwAvHAqLLAqA",
    "qLOW HAqIrIqUrUqEEqOOqLAEqGREAT SAjCONSONANT SIGN MEDIAL RAbfLAyLA TANG LAIjSIGN MAI KANG LAI",
    "jCONSONANT SIGN FINAL NGAyLOW PAyHIGH RATHA OR LOW PAyMAyBAySA+2jSIGN SAKOTjVOWEL SIGN A",
    "uMAI SATuAAuTALL AAuIvIuUEvUEv+1vUuOvA BELOWvYuEuAEuOOuAIuTHAM AIuOA ABOVEjSIGN MAI KANG",
    "oTONE-1t2oKHUEN TONE-3z4z5oRA HAAMoMAI SAMoKHUEN-LUE KARAN+3jCOMBINING CRYPTOGRAMMIC DOT",
    "jHORA DIGIT ZEROuONEuTWOvHREEuFOURvIVEuSIXvEVENuEIGHTuNINE+7jTHAM DIGIT ZEROuONEuTWOvHREE",
    "uFOURvIVEuSIXvEVENuEIGHTuNINE+7jSIGN WIANGtWAAKoSAWANoKEOWoHOYoDOKMAIoREVERSED ROTATED RANA",
    "oMAI YAMOKoKAANsKUUoSATKAANvKUUoHANGoCAANG+3aCOMBINING DOUBLED CIRCUMFLEX ACCENT",
    "lIAERESIS-RINGkINFINITYkDOWNWARDS ARROWkTRIPLE DOTkX-X BELOWkWIGGLY LINE BELOW",
    "kOPEN MARK BELOWkDOUBLE OPEN MARK BELOWkLIGHT CENTRALIZATION STROKE BELOW",
    "kSTRONG CENTRALIZATION STROKE BELOWkPARENTHESES ABOVEkDOUBLE PARENTHESES ABOVE",
    "kPARENTHESES BELOWwOVERLAYkLATIN SMALL LETTER W BELOWbdTURNED W BELOW",
    "lEFT PARENTHESIS ABOVE LEFTkRIGHT PARENTHESIS ABOVE RIGHTkLEFT PARENTHESIS BELOW LEFT",
    "kRIGHT PARENTHESIS BELOW RIGHTkSQUARE BRACKETS ABOVEkNUMBER SIGN ABOVE",
    "kINVERTED DOUBLE ARCH ABOVEkPLUS SIGN ABOVEkDOUBLE PLUS SIGN ABOVEbbBELOWkTRIPLE ACUTE ACCENT",
    "kLATIN SMALL LETTER INSULAR GblRblT+50aBALINESE SIGN ULU RICEMsCANDRAoCECEKoSURANGoBISAH",
    "jLETTER AKARAv TEDUNGqIKARAv TEDUNGqUKARAv TEDUNGqRA REPAx TEDUNGqLA LENGAy TEDUNGqEKARA",
    "qAIKARAqOKARAv TEDUNGqKAs MAHAPRANAqGAs GORAqNGAqCAs LACAqJAs JERAqNYAqTA LATIK",
    "tMURDA MAHAPRANAqDA MURDA ALPAPRANAzMAHAPRANAqNA RAMBATqTAs TAWAqDAs MADUqNAqPAs KAPALqBA",
    "s KEMBANGqMAqYAqRAqLAqWAqSA SAGAvPAs+1qHAjSIGN REREKANjVOWEL SIGN TEDUNGuULUx SARIuSUKUy ILUT",
    "uRA REPAbb TEDUNGuLA LENGAbc TEDUNGuTALINGba REPAbbTEDUNGbbREPA TEDUNGuPEPETz TEDUNG",
    "jADEG ADEGjLETTER KAF SASAKrHOT SASAKqTZIR SASAKqEF SASAKqVE SASAKqZAL SASAKqASYURA SASAK",
    "rRCHAIC JNYA+4jDIGIT ZEROpONEpTWOqHREEpFOURqIVEpSIXqEVENpEIGHTpNINEjPANTIlMADAjWINDU",
    "jCARIK PAMUNGKAHpSIKIpPARERENjPAMENENGjMUSICAL SYMBOL DONGzENGzUNGzANGbc SURANGzINGzAENGzEUNG",
    "zAINGbaNG GEDEyCOMBINING TEGEHbiENDEPbiKEMPULbmLIbiJEGOGANbiKEMPUL WITH JEGOGAN",
    "bmLI WITH JEGOGANbiBENDEbiGONGyRIGHT-HAND OPEN DUGbpAGbjCLOSED TUKbrAKyLEFT-HAND OPEN PANG",
    "boUNGbiCLOSED PLAKbrUKbiOPEN PINGjPANTI LANTANGlMADA LANTANG+2aSUNDANESE SIGN PANYECEKsGLAYAR",
    "tWISADkLETTER ArIrUrAErOrEsUrKArQArGArNGArCArJArZArNYArTArDArNArPArFArVArBArMArYArRArLArWArSA",
    "rXArHAkCONSONANT SIGN PAMINGKALbbNYAKRAbdIKUkVOWEL SIGN PANGHULUyYUKUyAELAENGyOLONGxMEPET",
    "xNEULEUNGkSIGN PAMAAEHpVIRAMAkCONSONANT SIGN PASANGAN MAbiWAkLETTER KHArSYAkDIGIT ZEROqONE",
    "qTWOrHREEqFOURrIVEqSIXrEVENqEIGHTqNINEkAVAGRAHAkLETTER REUrLEUrBHArFINAL KxMaBATAK LETTER A",
    "nSIMALUNGUN AnHAnSIMALUNGUN HAnMANDAILING HAnBAnKARO BAnPAnSIMALUNGUN PAnNAnMANDAILING NAnWA",
    "nSIMALUNGUN WAnPAKPAK WAnGAnSIMALUNGUN GAnJAnDAnRAnSIMALUNGUN RAnMAnSIMALUNGUN MAoOUTHERN TA",
    "nNORTHERN TAnSAoIMALUNGUN SAnMANDAILING SAnYAnSIMALUNGUN YAnNGAnLAnSIMALUNGUN LAnNYAnCAnNDA",
    "nMBAnInUgSIGN TOMPIgVOWEL SIGN ErPAKPAK ErEErIrKARO IrOrKARO OrUs FOR SIMALUNGUN SA",
    "gCONSONANT SIGN NGvHgPANGOLATjONGONAN+9gSYMBOL BINDU NA METEKtPINARBORAStJUDULtPANGOLAT",
    "aLEPCHA LETTER KApLApHAoGApLAoNGAoCApHAoJAoNYAoTApHAoDAoNAoPApLApHAoFApLAoBApLAoMApLAoTSAqHA",
    "oDZAoYAoRAoLAoHApLAoVAoSApHAoWAoAhSUBJOINED LETTER YAyRAhVOWEL SIGN AAsIsOtOsUtUsE",
    "hCONSONANT SIGN KwMwLwNwPwRwTwNYIN-DOwKANGhSIGN RANmNUKTA+4hPUNCTUATION TA-ROL",
    "tNYET THYOOM TA-ROLtCER-WAtTSHOOK CER-WAz+1hDIGIT ZEROnONEnTWOoHREEnFOURoIVEnSIXoEVENnEIGHT",
    "nNINE+4hLETTER TTAqHAoDDAaOL CHIKI DIGIT ZEROpONEpTWOqHREEpFOURqIVEpSIXqEVENpEIGHTpNINE",
    "jLETTER LAqATrGrNGrLqLAAqAAKsJsMsWqLIqISrHrNYrRqLUqUCrDrNNrYqLEqEPrDDrNrRRqLOqOTTrBrVrH",
    "jMU TTUDDAGjGAAHLAA TTUDDAAGjMU-GAAHLAA TTUDDAAGjRELAAjPHAARKAAjAHADjPUNCTUATION MUCAAD",
    "vDOUBLE MUCAADaCYRILLIC SMALL LETTER ROUNDED VEwLONG-LEGGED DEwNARROW OwWIDE ESwTALL TE",
    "xHREE-LEGGED TExALL HARD SIGNbbYATwUNBLENDED UK+8aGEORGIAN MTAVRULI CAPITAL LETTER ANbhBAN",
    "bhGANbhDONbhENbhVINbhZENbhTANbhINbhKANbhLASbhMANbhNARbhONbhPARbhZHARbhRAEbhSANbhTARbhUNbhPHAR",
    "bhKHARbhGHANbhQARbhSHINbhCHINbiANbhJILbhCILbiHARbhXANbhJHANbhHAEbiEbiIEbhWEbhHARbiOEbhFIbhYN",
    "bhELIFIbhTURNED GANbhAIN+3biENbhHARD SIGNbhLABIAL SIGNaSUNDANESE PUNCTUATION BINDU SURYA",
    "bcPANGLONGbdURNAMAbcCAKRAbcLEU SATANGAbcKA SATANGAbcDA SATANGAbcBA SATANGA",
    "+9aVEDIC TONE KARSHANAlSHARAlPRENKHAgSIGN NIHSHVASAlYAJURVEDIC MIDLINE SVARITA",
    "gTONE YAJURVEDIC AGGRAVATED INDEPENDENT SVARITAwINDEPENDENT SVARITA",
    "wKATHAKA INDEPENDENT SVARITAlCANDRA BELOWlYAJURVEDIC KATHAKA INDEPENDENT SVARITA SCHROEDER",
    "lDOUBLE SVARITAlTRIPLE SVARITAlKATHAKA ANUDATTAlDOT BELOWlTWO DOTS BELOWmHREE DOTS BELOW",
    "lRIGVEDIC KASHMIRI INDEPENDENT SVARITAlATHARVAVEDIC INDEPENDENT SVARITAgSIGN VISARGA SVARITA",
    "tUDATTAlREVERSED VISARGA UDATTAlVISARGA ANUDATTAlREVERSED VISARGA ANUDATTA",
    "lVISARGA UDATTA WITH TAILtANUDATTA WITH TAILlANUSVARA ANTARGOMUKHAuBAHIRGOMUKHAuVAMAGOMUKHA",
    "bf WITH TAILlTIRYAKlHEXIFORM LONG ANUSVARAlLONG ANUSVARAlRTHANG LONG ANUSVARA",
    "lANUSVARA UBHAYATO MUKHAmRDHAVISARGAlROTATED ARDHAVISARGAgTONE CANDRA ABOVEgSIGN JIHVAMULIYA",
    "lUPADHMANIYAlATIKRAMAgTONE RING ABOVElDOUBLE RING ABOVEgSIGN DOUBLE ANUSVARA ANTARGOMUKHA",
    "+6aLATIN LETTER SMALL CAPITAL AbcEgSMALL LETTER TURNED AEgLETTER SMALL CAPITAL BARRED BbbCbbD",
    "bbETHbc+1gSMALL LETTER TURNED OPEN EbaIgLETTER SMALL CAPITAL JbbKbbL WITH STROKEbbM",
    "bbREVERSED NbbObcPEN OgSMALL LETTER SIDEWAYS ObdPEN Obd WITH STROKEtTURNED OE",
    "gLETTER SMALL CAPITAL OUgSMALL LETTER TOP HALF OtBOTTOM HALF OgLETTER SMALL CAPITAL P",
    "bbREVERSED RbbTURNED Rbc+1bbUgSMALL LETTER SIDEWAYS UbcDIAERESIZED UbcTURNED M",
    "gLETTER SMALL CAPITAL VbbWbbZbbEZHnVOICED LARYNGEAL SPIRANTnAIN",
    "aGREEK LETTER SMALL CAPITAL GAMMAbbLAMDAbbPIbbRHObbPSIaCYRILLIC LETTER SMALL CAPITAL EL",
    "aMODIFIER LETTER CAPITAL AzEyBzARRED ByDyEyREVERSED EyGyHyIyJyKyLyMyNyREVERSED NyOzUyPyRyTyU",
    "yWqSMALL AwTURNED AwALPHAwTURNED AEwBwDwEwSCHWAwOPEN EwTURNED OPEN EwGwTURNED IwKwMwENGwO",
    "xPEN OwTOP HALF OwBOTTOM HALF OwPwTwUwSIDEWAYS UwTURNED MwVwAINwBETAwGREEK GAMMAwDELTA",
    "wGREEK PHIwCHIaLATIN SUBSCRIPT SMALL LETTER IbdRbdUbdVaGREEK SUBSCRIPT SMALL LETTER BETA",
    "bdGAMMAbdRHObdPHIbdCHIaLATIN SMALL LETTER UEtB WITH MIDDLE TILDEtD WITH MIDDLE TILDE",
    "tF WITH MIDDLE TILDEtM WITH MIDDLE TILDEtN WITH MIDDLE TILDEtP WITH MIDDLE TILDE",
    "tR WITH MIDDLE TILDEbaFISHHOOK AND MIDDLE TILDEtS WITH MIDDLE TILDEtT WITH MIDDLE TILDE",
    "tZ WITH MIDDLE TILDEtTURNED GaMODIFIER LETTER CYRILLIC ENaLATIN SMALL LETTER INSULAR G",
    "tTH WITH STRIKETHROUGHmCAPITAL LETTER I WITH STROKEmLETTER IOTA WITH STROKEtP WITH STROKE",
    "mCAPITAL LETTER U WITH STROKEmLETTER UPSILON WITH STROKEtB WITH PALATAL HOOK",
    "tD WITH PALATAL HOOKtF WITH PALATAL HOOKtG WITH PALATAL HOOKtK WITH PALATAL HOOK",
    "tL WITH PALATAL HOOKtM WITH PALATAL HOOKtN WITH PALATAL HOOKtP WITH PALATAL HOOK",
    "tR WITH PALATAL HOOKtS WITH PALATAL HOOKtESH WITH PALATAL HOOKtV WITH PALATAL HOOK",
    "tX WITH PALATAL HOOKtZ WITH PALATAL HOOKtA WITH RETROFLEX HOOKuLPHA WITH RETROFLEX HOOK",
    "tD WITH HOOK AND TAILtE WITH RETROFLEX HOOKtOPEN E WITH RETROFLEX HOOK",
    "tREVERSED OPEN E WITH RETROFLEX HOOKtSCHWA WITH RETROFLEX HOOKtI WITH RETROFLEX HOOK",
    "tOPEN O WITH RETROFLEX HOOKtESH WITH RETROFLEX HOOKtU WITH RETROFLEX HOOK",
    "tEZH WITH RETROFLEX HOOKaMODIFIER LETTER SMALL TURNED ALPHAwCx WITH CURLwETHwREVERSED OPEN E",
    "wFwDOTLESS J WITH STROKEwSCRIPT GwTURNED HwI WITH STROKExOTAwCAPITAL Ibf WITH STROKE",
    "wJ WITH CROSSED-TAILwL WITH RETROFLEX HOOKbdPALATAL HOOKwCAPITAL LwM WITH HOOK",
    "wTURNED M WITH LONG LEGwN WITH LEFT HOOKbdRETROFLEX HOOKwCAPITAL NwBARRED OwPHIwS WITH HOOK",
    "wESHwT WITH PALATAL HOOKwU BARxPSILONwCAPITAL UwV WITH HOOKwTURNED VwZx WITH RETROFLEX HOOK",
    "bdCURLwEZHwTHETAaCOMBINING DOTTED GRAVE ACCENTrACUTE ACCENTkSNAKE BELOWlUSPENSION MARK",
    "kMACRON-ACUTEkGRAVE-MACRONkMACRON-GRAVEkACUTE-MACRONkGRAVE-ACUTE-GRAVEkACUTE-GRAVE-ACUTE",
    "kLATIN SMALL LETTER R BELOWkBREVE-MACRONkMACRON-BREVEkDOUBLE CIRCUMFLEX ABOVEkOGONEK ABOVE",
    "kZIGZAG BELOWkIS BELOWkUR ABOVElS ABOVEkLATIN SMALL LETTER FLATTENED OPEN A ABOVEbdAEbeObeV",
    "bdC CEDILLAbdINSULAR DbdETHbdGqLETTER SMALL CAPITAL GqSMALL LETTER KbdL",
    "qLETTER SMALL CAPITAL LblMqSMALL LETTER NqLETTER SMALL CAPITAL NblRqSMALL LETTER R ROTUNDAbdS",
    "bdLONG SbdZbdALPHAbdBbeETAbdSCHWAbdFbdL WITH DOUBLE MIDDLE TILDE",
    "bdO WITH LIGHT CENTRALIZATION STROKEbdPbdESHbdU WITH LIGHT CENTRALIZATION STROKEbdW",
    "bdA WITH DIAERESISbdO WITH DIAERESISbdU WITH DIAERESISkUP TACK ABOVEkKAVYKA ABOVE RIGHTxLEFT",
    "kDOT ABOVE LEFTkWIDE INVERTED BRIDGE BELOWkDOT BELOW LEFTlELETION MARK",
    "lOUBLE INVERTED BREVE BELOWkALMOST EQUAL TO BELOWkLEFT ARROWHEAD ABOVE",
    "kRIGHT ARROWHEAD AND DOWN ARROWHEAD BELOWaLATIN CAPITAL LETTER A WITH RING BELOW",
    "gSMALL LETTER A WITH RING BELOWgCAPITAL LETTER B WITH DOT ABOVEgSMALL LETTER B WITH DOT ABOVE",
    "gCAPITAL LETTER B WITH DOT BELOWgSMALL LETTER B WITH DOT BELOW",
    "gCAPITAL LETTER B WITH LINE BELOWgSMALL LETTER B WITH LINE BELOW",
    "gCAPITAL LETTER C WITH CEDILLA AND ACUTEgSMALL LETTER C WITH CEDILLA AND ACUTE",
    "gCAPITAL LETTER D WITH DOT ABOVEgSMALL LETTER D WITH DOT ABOVE",
    "gCAPITAL LETTER D WITH DOT BELOWgSMALL LETTER D WITH DOT BELOW",
    "gCAPITAL LETTER D WITH LINE BELOWgSMALL LETTER D WITH LINE BELOW",
    "gCAPITAL LETTER D WITH CEDILLAgSMALL LETTER D WITH CEDILLA",
    "gCAPITAL LETTER D WITH CIRCUMFLEX BELOWgSMALL LETTER D WITH CIRCUMFLEX BELOW",
    "gCAPITAL LETTER E WITH MACRON AND GRAVEgSMALL LETTER E WITH MACRON AND GRAVE",
    "gCAPITAL LETTER E WITH MACRON AND ACUTEgSMALL LETTER E WITH MACRON AND ACUTE",
    "gCAPITAL LETTER E WITH CIRCUMFLEX BELOWgSMALL LETTER E WITH CIRCUMFLEX BELOW",
    "gCAPITAL LETTER E WITH TILDE BELOWgSMALL LETTER E WITH TILDE BELOW",
    "gCAPITAL LETTER E WITH CEDILLA AND BREVEgSMALL LETTER E WITH CEDILLA AND BREVE",
    "gCAPITAL LETTER F WITH DOT ABOVEgSMALL LETTER F WITH DOT ABOVEgCAPITAL LETTER G WITH MACRON",
    "gSMALL LETTER G WITH MACRONgCAPITAL LETTER H WITH DOT ABOVEgSMALL LETTER H WITH DOT ABOVE",
    "gCAPITAL LETTER H WITH DOT BELOWgSMALL LETTER H WITH DOT BELOW",
    "gCAPITAL LETTER H WITH DIAERESISgSMALL LETTER H WITH DIAERESISgCAPITAL LETTER H WITH CEDILLA",
    "gSMALL LETTER H WITH CEDILLAgCAPITAL LETTER H WITH BREVE BELOW",
    "gSMALL LETTER H WITH BREVE BELOWgCAPITAL LETTER I WITH TILDE BELOW",
    "gSMALL LETTER I WITH TILDE BELOWgCAPITAL LETTER I WITH DIAERESIS AND ACUTE",
    "gSMALL LETTER I WITH DIAERESIS AND ACUTEgCAPITAL LETTER K WITH ACUTE",
    "gSMALL LETTER K WITH ACUTEgCAPITAL LETTER K WITH DOT BELOWgSMALL LETTER K WITH DOT BELOW",
    "gCAPITAL LETTER K WITH LINE BELOWgSMALL LETTER K WITH LINE BELOW",
    "gCAPITAL LETTER L WITH DOT BELOWgSMALL LETTER L WITH DOT BELOW",
    "gCAPITAL LETTER L WITH DOT BELOW AND MACRONgSMALL LETTER L WITH DOT BELOW AND MACRON",
    "gCAPITAL LETTER L WITH LINE BELOWgSMALL LETTER L WITH LINE BELOW",
    "gCAPITAL LETTER L WITH CIRCUMFLEX BELOWgSMALL LETTER L WITH CIRCUMFLEX BELOW",
    "gCAPITAL LETTER M WITH ACUTEgSMALL LETTER M WITH ACUTEgCAPITAL LETTER M WITH DOT ABOVE",
    "gSMALL LETTER M WITH DOT ABOVEgCAPITAL LETTER M WITH DOT BELOWgSMALL LETTER M WITH DOT BELOW",
    "gCAPITAL LETTER N WITH DOT ABOVEgSMALL LETTER N WITH DOT ABOVE",
    "gCAPITAL LETTER N WITH DOT BELOWgSMALL LETTER N WITH DOT BELOW",
    "gCAPITAL LETTER N WITH LINE BELOWgSMALL LETTER N WITH LINE BELOW",
    "gCAPITAL LETTER N WITH CIRCUMFLEX BELOWgSMALL LETTER N WITH CIRCUMFLEX BELOW",
    "gCAPITAL LETTER O WITH TILDE AND ACUTEgSMALL LETTER O WITH TILDE AND ACUTE",
    "gCAPITAL LETTER O WITH TILDE AND DIAERESISgSMALL LETTER O WITH TILDE AND DIAERESIS",
    "gCAPITAL LETTER O WITH MACRON AND GRAVEgSMALL LETTER O WITH MACRON AND GRAVE",
    "gCAPITAL LETTER O WITH MACRON AND ACUTEgSMALL LETTER O WITH MACRON AND ACUTE",
    "gCAPITAL LETTER P WITH ACUTEgSMALL LETTER P WITH ACUTEgCAPITAL LETTER P WITH DOT ABOVE",
    "gSMALL LETTER P WITH DOT ABOVEgCAPITAL LETTER R WITH DOT ABOVEgSMALL LETTER R WITH DOT ABOVE",
    "gCAPITAL LETTER R WITH DOT BELOWgSMALL LETTER R WITH DOT BELOW",
    "gCAPITAL LETTER R WITH DOT BELOW AND MACRONgSMALL LETTER R WITH DOT BELOW AND MACRON",
    "gCAPITAL LETTER R WITH LINE BELOWgSMALL LETTER R WITH LINE BELOW",
    "gCAPITAL LETTER S WITH DOT ABOVEgSMALL LETTER S WITH DOT ABOVE",
    "gCAPITAL LETTER S WITH DOT BELOWgSMALL LETTER S WITH DOT BELOW",
    "gCAPITAL LETTER S WITH ACUTE AND DOT ABOVEgSMALL LETTER S WITH ACUTE AND DOT ABOVE",
    "gCAPITAL LETTER S WITH CARON AND DOT ABOVEgSMALL LETTER S WITH CARON AND DOT ABOVE",
    "gCAPITAL LETTER S WITH DOT BELOW AND DOT ABOVEgSMALL LETTER S WITH DOT BELOW AND DOT ABOVE",
    "gCAPITAL LETTER T WITH DOT ABOVEgSMALL LETTER T WITH DOT ABOVE",
    "gCAPITAL LETTER T WITH DOT BELOWgSMALL LETTER T WITH DOT BELOW",
    "gCAPITAL LETTER T WITH LINE BELOWgSMALL LETTER T WITH LINE BELOW",
    "gCAPITAL LETTER T WITH CIRCUMFLEX BELOWgSMALL LETTER T WITH CIRCUMFLEX BELOW",
    "gCAPITAL LETTER U WITH DIAERESIS BELOWgSMALL LETTER U WITH DIAERESIS BELOW",
    "gCAPITAL LETTER U WITH TILDE BELOWgSMALL LETTER U WITH TILDE BELOW",
    "gCAPITAL LETTER U WITH CIRCUMFLEX BELOWgSMALL LETTER U WITH CIRCUMFLEX BELOW",
    "gCAPITAL LETTER U WITH TILDE AND ACUTEgSMALL LETTER U WITH TILDE AND ACUTE",
    "gCAPITAL LETTER U WITH MACRON AND DIAERESISgSMALL LETTER U WITH MACRON AND DIAERESIS",
    "gCAPITAL LETTER V WITH TILDEgSMALL LETTER V WITH TILDEgCAPITAL LETTER V WITH DOT BELOW",
    "gSMALL LETTER V WITH DOT BELOWgCAPITAL LETTER W WITH GRAVEgSMALL LETTER W WITH GRAVE",
    "gCAPITAL LETTER W WITH ACUTEgSMALL LETTER W WITH ACUTEgCAPITAL LETTER W WITH DIAERESIS",
    "gSMALL LETTER W WITH DIAERESISgCAPITAL LETTER W WITH DOT ABOVEgSMALL LETTER W WITH DOT ABOVE",
    "gCAPITAL LETTER W WITH DOT BELOWgSMALL LETTER W WITH DOT BELOW",
    "gCAPITAL LETTER X WITH DOT ABOVEgSMALL LETTER X WITH DOT ABOVE",
    "gCAPITAL LETTER X WITH DIAERESISgSMALL LETTER X WITH DIAERESIS",
    "gCAPITAL LETTER Y WITH DOT ABOVEgSMALL LETTER Y WITH DOT ABOVE",
    "gCAPITAL LETTER Z WITH CIRCUMFLEXgSMALL LETTER Z WITH CIRCUMFLEX",
    "gCAPITAL LETTER Z WITH DOT BELOWgSMALL LETTER Z WITH DOT BELOW",
    "gCAPITAL LETTER Z WITH LINE BELOWgSMALL LETTER Z WITH LINE BELOWtH WITH LINE BELOW",
    "tT WITH DIAERESIStW WITH RING ABOVEtY WITH RING ABOVEtA WITH RIGHT HALF RING",
    "tLONG S WITH DOT ABOVEbgIAGONAL STROKEbfHIGH STROKEgCAPITAL LETTER SHARP SgSMALL LETTER DELTA",
    "gCAPITAL LETTER A WITH DOT BELOWgSMALL LETTER A WITH DOT BELOW",
    "gCAPITAL LETTER A WITH HOOK ABOVEgSMALL LETTER A WITH HOOK ABOVE",
    "gCAPITAL LETTER A WITH CIRCUMFLEX AND ACUTEgSMALL LETTER A WITH CIRCUMFLEX AND ACUTE",
    "gCAPITAL LETTER A WITH CIRCUMFLEX AND GRAVEgSMALL LETTER A WITH CIRCUMFLEX AND GRAVE",
    "gCAPITAL LETTER A WITH CIRCUMFLEX AND HOOK ABOVE",
    "gSMALL LETTER A WITH CIRCUMFLEX AND HOOK ABOVEgCAPITAL LETTER A WITH CIRCUMFLEX AND TILDE",
    "gSMALL LETTER A WITH CIRCUMFLEX AND TILDEgCAPITAL LETTER A WITH CIRCUMFLEX AND DOT BELOW",
    "gSMALL LETTER A WITH CIRCUMFLEX AND DOT BELOWgCAPITAL LETTER A WITH BREVE AND ACUTE",
    "gSMALL LETTER A WITH BREVE AND ACUTEgCAPITAL LETTER A WITH BREVE AND GRAVE",
    "gSMALL LETTER A WITH BREVE AND GRAVEgCAPITAL LETTER A WITH BREVE AND HOOK ABOVE",
    "gSMALL LETTER A WITH BREVE AND HOOK ABOVEgCAPITAL LETTER A WITH BREVE AND TILDE",
    "gSMALL LETTER A WITH BREVE AND TILDEgCAPITAL LETTER A WITH BREVE AND DOT BELOW",
    "gSMALL LETTER A WITH BREVE AND DOT BELOWgCAPITAL LETTER E WITH DOT BELOW",
    "gSMALL LETTER E WITH DOT BELOWgCAPITAL LETTER E WITH HOOK ABOVE",
    "gSMALL LETTER E WITH HOOK ABOVEgCAPITAL LETTER E WITH TILDEgSMALL LETTER E WITH TILDE",
    "gCAPITAL LETTER E WITH CIRCUMFLEX AND ACUTEgSMALL LETTER E WITH CIRCUMFLEX AND ACUTE",
    "gCAPITAL LETTER E WITH CIRCUMFLEX AND GRAVEgSMALL LETTER E WITH CIRCUMFLEX AND GRAVE",
    "gCAPITAL LETTER E WITH CIRCUMFLEX AND HOOK ABOVE",
    "gSMALL LETTER E WITH CIRCUMFLEX AND HOOK ABOVEgCAPITAL LETTER E WITH CIRCUMFLEX AND TILDE",
    "gSMALL LETTER E WITH CIRCUMFLEX AND TILDEgCAPITAL LETTER E WITH CIRCUMFLEX AND DOT BELOW",
    "gSMALL LETTER E WITH CIRCUMFLEX AND DOT BELOWgCAPITAL LETTER I WITH HOOK ABOVE",
    "gSMALL LETTER I WITH HOOK ABOVEgCAPITAL LETTER I WITH DOT BELOWgSMALL LETTER I WITH DOT BELOW",
    "gCAPITAL LETTER O WITH DOT BELOWgSMALL LETTER O WITH DOT BELOW",
    "gCAPITAL LETTER O WITH HOOK ABOVEgSMALL LETTER O WITH HOOK ABOVE",
    "gCAPITAL LETTER O WITH CIRCUMFLEX AND ACUTEgSMALL LETTER O WITH CIRCUMFLEX AND ACUTE",
    "gCAPITAL LETTER O WITH CIRCUMFLEX AND GRAVEgSMALL LETTER O WITH CIRCUMFLEX AND GRAVE",
    "gCAPITAL LETTER O WITH CIRCUMFLEX AND HOOK ABOVE",
    "gSMALL LETTER O WITH CIRCUMFLEX AND HOOK ABOVEgCAPITAL LETTER O WITH CIRCUMFLEX AND TILDE",
    "gSMALL LETTER O WITH CIRCUMFLEX AND TILDEgCAPITAL LETTER O WITH CIRCUMFLEX AND DOT BELOW",
    "gSMALL LETTER O WITH CIRCUMFLEX AND DOT BELOWgCAPITAL LETTER O WITH HORN AND ACUTE",
    "gSMALL LETTER O WITH HORN AND ACUTEgCAPITAL LETTER O WITH HORN AND GRAVE",
    "gSMALL LETTER O WITH HORN AND GRAVEgCAPITAL LETTER O WITH HORN AND HOOK ABOVE",
    "gSMALL LETTER O WITH HORN AND HOOK ABOVEgCAPITAL LETTER O WITH HORN AND TILDE",
    "gSMALL LETTER O WITH HORN AND TILDEgCAPITAL LETTER O WITH HORN AND DOT BELOW",
    "gSMALL LETTER O WITH HORN AND DOT BELOWgCAPITAL LETTER U WITH DOT BELOW",
    "gSMALL LETTER U WITH DOT BELOWgCAPITAL LETTER U WITH HOOK ABOVE",
    "gSMALL LETTER U WITH HOOK ABOVEgCAPITAL LETTER U WITH HORN AND ACUTE",
    "gSMALL LETTER U WITH HORN AND ACUTEgCAPITAL LETTER U WITH HORN AND GRAVE",
    "gSMALL LETTER U WITH HORN AND GRAVEgCAPITAL LETTER U WITH HORN AND HOOK ABOVE",
    "gSMALL LETTER U WITH HORN AND HOOK ABOVEgCAPITAL LETTER U WITH HORN AND TILDE",
    "gSMALL LETTER U WITH HORN AND TILDEgCAPITAL LETTER U WITH HORN AND DOT BELOW",
    "gSMALL LETTER U WITH HORN AND DOT BELOWgCAPITAL LETTER Y WITH GRAVEgSMALL LETTER Y WITH GRAVE",
    "gCAPITAL LETTER Y WITH DOT BELOWgSMALL LETTER Y WITH DOT BELOW",
    "gCAPITAL LETTER Y WITH HOOK ABOVEgSMALL LETTER Y WITH HOOK ABOVEgCAPITAL LETTER Y WITH TILDE",
    "gSMALL LETTER Y WITH TILDEgCAPITAL LETTER MIDDLE-WELSH LLgSMALL LETTER MIDDLE-WELSH LL",
    "gCAPITAL LETTER MIDDLE-WELSH VgSMALL LETTER MIDDLE-WELSH VgCAPITAL LETTER Y WITH LOOP",
    "gSMALL LETTER Y WITH LOOPaGREEK SMALL LETTER ALPHA WITH PSILIbeDASIAbePSILI AND VARIA",
    "beDASIA AND VARIAbePSILI AND OXIAbeDASIA AND OXIAbePSILI AND PERISPOMENI",
    "beDASIA AND PERISPOMENIgCAPITAL LETTER ALPHA WITH PSILIbgDASIAbgPSILI AND VARIA",
    "bgDASIA AND VARIAbgPSILI AND OXIAbgDASIA AND OXIAbgPSILI AND PERISPOMENI",
    "bgDASIA AND PERISPOMENIgSMALL LETTER EPSILON WITH PSILIbgDASIAbgPSILI AND VARIA",
    "bgDASIA AND VARIAbgPSILI AND OXIAbgDASIA AND OXIA+3gCAPITAL LETTER EPSILON WITH PSILIbiDASIA",
    "biPSILI AND VARIAbiDASIA AND VARIAbiPSILI AND OXIAbiDASIA AND OXIA",
    "+3gSMALL LETTER ETA WITH PSILIbcDASIAbcPSILI AND VARIAbcDASIA AND VARIAbcPSILI AND OXIA",
    "bcDASIA AND OXIAbcPSILI AND PERISPOMENIbcDASIA AND PERISPOMENIgCAPITAL LETTER ETA WITH PSILI",
    "beDASIAbePSILI AND VARIAbeDASIA AND VARIAbePSILI AND OXIAbeDASIA AND OXIA",
    "bePSILI AND PERISPOMENIbeDASIA AND PERISPOMENIgSMALL LETTER IOTA WITH PSILIbdDASIA",
    "bdPSILI AND VARIAbdDASIA AND VARIAbdPSILI AND OXIAbdDASIA AND OXIAbdPSILI AND PERISPOMENI",
    "bdDASIA AND PERISPOMENIgCAPITAL LETTER IOTA WITH PSILIbfDASIAbfPSILI AND VARIA",
    "bfDASIA AND VARIAbfPSILI AND OXIAbfDASIA AND OXIAbfPSILI AND PERISPOMENI",
    "bfDASIA AND PERISPOMENIgSMALL LETTER OMICRON WITH PSILIbgDASIAbgPSILI AND VARIA",
    "bgDASIA AND VARIAbgPSILI AND OXIAbgDASIA AND OXIA+3gCAPITAL LETTER OMICRON WITH PSILIbiDASIA",
    "biPSILI AND VARIAbiDASIA AND VARIAbiPSILI AND OXIAbiDASIA AND OXIA",
    "+3gSMALL LETTER UPSILON WITH PSILIbgDASIAbgPSILI AND VARIAbgDASIA AND VARIAbgPSILI AND OXIA",
    "bgDASIA AND OXIAbgPSILI AND PERISPOMENIbgDASIA AND PERISPOMENI",
    "+2gCAPITAL LETTER UPSILON WITH DASIA+2bn AND VARIA+2bsOXIA+2bsPERISPOMENI",
    "gSMALL LETTER OMEGA WITH PSILIbeDASIAbePSILI AND VARIAbeDASIA AND VARIAbePSILI AND OXIA",
    "beDASIA AND OXIAbePSILI AND PERISPOMENIbeDASIA AND PERISPOMENI",
    "gCAPITAL LETTER OMEGA WITH PSILIbgDASIAbgPSILI AND VARIAbgDASIA AND VARIAbgPSILI AND OXIA",
    "bgDASIA AND OXIAbgPSILI AND PERISPOMENIbgDASIA AND PERISPOMENIgSMALL LETTER ALPHA WITH VARIA",
    "beOXIAtEPSILON WITH VARIAbgOXIAuTA WITH VARIAbcOXIAtIOTA WITH VARIAbdOXIAtOMICRON WITH VARIA",
    "bgOXIAtUPSILON WITH VARIAbgOXIAtOMEGA WITH VARIAbeOXIA+3tALPHA WITH PSILI AND YPOGEGRAMMENI",
    "beDASIA AND YPOGEGRAMMENIbePSILI AND VARIA AND YPOGEGRAMMENI",
    "beDASIA AND VARIA AND YPOGEGRAMMENIbePSILI AND OXIA AND YPOGEGRAMMENI",
    "beDASIA AND OXIA AND YPOGEGRAMMENIbePSILI AND PERISPOMENI AND YPOGEGRAMMENI",
    "beDASIA AND PERISPOMENI AND YPOGEGRAMMENIgCAPITAL LETTER ALPHA WITH PSILI AND PROSGEGRAMMENI",
    "bgDASIA AND PROSGEGRAMMENIbgPSILI AND VARIA AND PROSGEGRAMMENI",
    "bgDASIA AND VARIA AND PROSGEGRAMMENIbgPSILI AND OXIA AND PROSGEGRAMMENI",
    "bgDASIA AND OXIA AND PROSGEGRAMMENIbgPSILI AND PERISPOMENI AND PROSGEGRAMMENI",
    "bgDASIA AND PERISPOMENI AND PROSGEGRAMMENIgSMALL LETTER ETA WITH PSILI AND YPOGEGRAMMENI",
    "bcDASIA AND YPOGEGRAMMENIbcPSILI AND VARIA AND YPOGEGRAMMENI",
    "bcDASIA AND VARIA AND YPOGEGRAMMENIbcPSILI AND OXIA AND YPOGEGRAMMENI",
    "bcDASIA AND OXIA AND YPOGEGRAMMENIbcPSILI AND PERISPOMENI AND YPOGEGRAMMENI",
    "bcDASIA AND PERISPOMENI AND YPOGEGRAMMENIgCAPITAL LETTER ETA WITH PSILI AND PROSGEGRAMMENI",
    "beDASIA AND PROSGEGRAMMENIbePSILI AND VARIA AND PROSGEGRAMMENI",
    "beDASIA AND VARIA AND PROSGEGRAMMENIbePSILI AND OXIA AND PROSGEGRAMMENI",
    "beDASIA AND OXIA AND PROSGEGRAMMENIbePSILI AND PERISPOMENI AND PROSGEGRAMMENI",
    "beDASIA AND PERISPOMENI AND PROSGEGRAMMENIgSMALL LETTER OMEGA WITH PSILI AND YPOGEGRAMMENI",
    "beDASIA AND YPOGEGRAMMENIbePSILI AND VARIA AND YPOGEGRAMMENI",
    "beDASIA AND VARIA AND YPOGEGRAMMENIbePSILI AND OXIA AND YPOGEGRAMMENI",
    "beDASIA AND OXIA AND YPOGEGRAMMENIbePSILI AND PERISPOMENI AND YPOGEGRAMMENI",
    "beDASIA AND PERISPOMENI AND YPOGEGRAMMENIgCAPITAL LETTER OMEGA WITH PSILI AND PROSGEGRAMMENI",
    "bgDASIA AND PROSGEGRAMMENIbgPSILI AND VARIA AND PROSGEGRAMMENI",
    "bgDASIA AND VARIA AND PROSGEGRAMMENIbgPSILI AND OXIA AND PROSGEGRAMMENI",
    "bgDASIA AND OXIA AND PROSGEGRAMMENIbgPSILI AND PERISPOMENI AND PROSGEGRAMMENI",
    "bgDASIA AND PERISPOMENI AND PROSGEGRAMMENIgSMALL LETTER ALPHA WITH VRACHYbeMACRON",
    "beVARIA AND YPOGEGRAMMENIbeYPOGEGRAMMENIbeOXIA AND YPOGEGRAMMENI+2bePERISPOMENI",
    "bp AND YPOGEGRAMMENIgCAPITAL LETTER ALPHA WITH VRACHYbgMACRONbgVARIAbgOXIAbgPROSGEGRAMMENI",
    "gKORONISgPROSGEGRAMMENIhSILIhERISPOMENIgDIALYTIKA AND PERISPOMENI",
    "gSMALL LETTER ETA WITH VARIA AND YPOGEGRAMMENIbcYPOGEGRAMMENIbcOXIA AND YPOGEGRAMMENI",
    "+2bcPERISPOMENIbn AND YPOGEGRAMMENIgCAPITAL LETTER EPSILON WITH VARIAbiOXIAwTA WITH VARIA",
    "beOXIAbePROSGEGRAMMENIgPSILI AND VARIAqOXIAqPERISPOMENIgSMALL LETTER IOTA WITH VRACHYbdMACRON",
    "bdDIALYTIKA AND VARIAbrOXIA+3bdPERISPOMENIbdDIALYTIKA AND PERISPOMENI",
    "gCAPITAL LETTER IOTA WITH VRACHYbfMACRONbfVARIAbfOXIA+2gDASIA AND VARIAqOXIAqPERISPOMENI",
    "gSMALL LETTER UPSILON WITH VRACHYbgMACRONbgDIALYTIKA AND VARIAbuOXIAtRHO WITH PSILIbcDASIA",
    "tUPSILON WITH PERISPOMENIbgDIALYTIKA AND PERISPOMENIgCAPITAL LETTER UPSILON WITH VRACHY",
    "biMACRONbiVARIAbiOXIAvRHO WITH DASIAgDIALYTIKA AND VARIAuOXIAgVARIA",
    "+3gSMALL LETTER OMEGA WITH VARIA AND YPOGEGRAMMENIbeYPOGEGRAMMENIbeOXIA AND YPOGEGRAMMENI",
    "+2bePERISPOMENIbp AND YPOGEGRAMMENIgCAPITAL LETTER OMICRON WITH VARIAbiOXIAxEGA WITH VARIA",
    "bgOXIAbgPROSGEGRAMMENIgOXIAgDASIA+2aEN QUADbM QUADbN SPACEbM SPACEaTHREE-PER-EM SPACE",
    "aFOUR-PER-EM SPACEaSIX-PER-EM SPACEaFIGURE SPACEaPUNCTUATION SPACEaTHIN SPACEaHAIR SPACE",
    "aZERO WIDTH SPACE+0bWSPbERO WIDTH NON-JOINER+0bWNJbERO WIDTH JOINER+0bWJaLEFT-TO-RIGHT MARK",
    "+0bRMaRIGHT-TO-LEFT MARK+0bLMaHYPHENaNON-BREAKING HYPHENaFIGURE DASHaEN DASHbM DASH",
    "aHORIZONTAL BARaDOUBLE VERTICAL LINEhLOW LINEaLEFT SINGLE QUOTATION MARK",
    "aRIGHT SINGLE QUOTATION MARKaSINGLE LOW-9 QUOTATION MARKhHIGH-REVERSED-9 QUOTATION MARK",
    "aLEFT DOUBLE QUOTATION MARKaRIGHT DOUBLE QUOTATION MARKaDOUBLE LOW-9 QUOTATION MARK",
    "hHIGH-REVERSED-9 QUOTATION MARKbAGGERbOUBLE DAGGERaBULLETaTRIANGULAR BULLETaONE DOT LEADER",
    "aTWO DOT LEADERaHORIZONTAL ELLIPSISbYPHENATION POINTaLINE SEPARATORaPARAGRAPH SEPARATOR",
    "aLEFT-TO-RIGHT EMBEDDING+0bREaRIGHT-TO-LEFT EMBEDDING+0bLEaPDF+0bOP DIRECTIONAL FORMATTING",
    "aLEFT-TO-RIGHT OVERRIDE+0bROaRIGHT-TO-LEFT OVERRIDE+0bLOaNARROW NO-BREAK SPACE+0bNBSP",
    "aPER MILLE SIGNeTEN THOUSAND SIGNbRIMEaDOUBLE PRIMEaTRIPLE PRIMEaREVERSED PRIMEjDOUBLE PRIME",
    "jTRIPLE PRIMEaCARETaSINGLE LEFT-POINTING ANGLE QUOTATION MARK",
    "hRIGHT-POINTING ANGLE QUOTATION MARKaREFERENCE MARKaDOUBLE EXCLAMATION MARKaINTERROBANG",
    "aOVERLINEaUNDERTIEaCHARACTER TIEbARET INSERTION POINTaASTERISMaHYPHEN BULLETaFRACTION SLASH",
    "aLEFT SQUARE BRACKET WITH QUILLaRIGHT SQUARE BRACKET WITH QUILLaDOUBLE QUESTION MARK",
    "aQUESTION EXCLAMATION MARKaEXCLAMATION QUESTION MARKaTIRONIAN SIGN ETaREVERSED PILCROW SIGN",
    "aBLACK LEFTWARDS BULLETgRIGHTWARDS BULLETaLOW ASTERISKaREVERSED SEMICOLONaCLOSE UP",
    "aTWO ASTERISKS ALIGNED VERTICALLYaCOMMERCIAL MINUS SIGNaSWUNG DASHaINVERTED UNDERTIE",
    "aFLOWER PUNCTUATION MARKaTHREE DOT PUNCTUATIONaQUADRUPLE PRIMEaFOUR DOT PUNCTUATION",
    "bIVE DOT PUNCTUATIONaTWO DOT PUNCTUATIONaFOUR DOT MARKaDOTTED CROSSaTRICOLON",
    "aVERTICAL FOUR DOTSaMEDIUM MATHEMATICAL SPACE+0bMSPaWJ+0bORD JOINERaFUNCTION APPLICATION",
    "aINVISIBLE TIMESkSEPARATORkPLUS+2aLEFT-TO-RIGHT ISOLATE+0bRIaRIGHT-TO-LEFT ISOLATE+0bLI",
    "aFIRST STRONG ISOLATE+0bSIaPDI+0bOP DIRECTIONAL ISOLATEaINHIBIT SYMMETRIC SWAPPING",
    "aACTIVATE SYMMETRIC SWAPPINGaINHIBIT ARABIC FORM SHAPINGaACTIVATE ARABIC FORM SHAPING",
    "aNATIONAL DIGIT SHAPESbOMINAL DIGIT SHAPESaSUPERSCRIPT ZEROmLATIN SMALL LETTER I+3mFOURnIVE",
    "mSIXnEVENmEIGHTmNINEmPLUS SIGNmMINUSmEQUALS SIGNmLEFT PARENTHESISmRIGHT PARENTHESIS",
    "mLATIN SMALL LETTER NcBSCRIPT ZEROkONEkTWOlHREEkFOURlIVEkSIXlEVENkEIGHTkNINEkPLUS SIGNkMINUS",
    "kEQUALS SIGNkLEFT PARENTHESISkRIGHT PARENTHESIS+2aLATIN SUBSCRIPT SMALL LETTER AbdEbdObdX",
    "bdSCHWAbdHbdKbdLbdMbdNbdPbdSbdT+4aEURO-CURRENCY SIGNaCOLON SIGNbRUZEIRO SIGN",
    "aFRENCH FRANC SIGNaLIRA SIGNaMILL SIGNaNAIRA SIGNaPESETA SIGNaRUPEE SIGNaWON SIGN",
    "aNEW SHEQEL SIGNaDONG SIGNaEURO SIGNaKIP SIGNaTUGRIK SIGNaDRACHMA SIGNaGERMAN PENNY SIGN",
    "aPESO SIGNaGUARANI SIGNaAUSTRAL SIGNaHRYVNIA SIGNaCEDI SIGNaLIVRE TOURNOIS SIGNaSPESMILO SIGN",
    "aTENGE SIGNaINDIAN RUPEE SIGNaTURKISH LIRA SIGNaNORDIC MARK SIGNaMANAT SIGNaRUBLE SIGN",
    "aLARI SIGNaBITCOIN SIGNaSOM SIGN+16aCOMBINING LEFT HARPOON ABOVEkRIGHT HARPOON ABOVE",
    "kLONG VERTICAL LINE OVERLAYkSHORT VERTICAL LINE OVERLAYkANTICLOCKWISE ARROW ABOVE",
    "kCLOCKWISE ARROW ABOVEkLEFT ARROW ABOVEkRIGHT ARROW ABOVEmNG OVERLAYkCLOCKWISE RING OVERLAY",
    "kANTICLOCKWISE RING OVERLAYkTHREE DOTS ABOVEkFOUR DOTS ABOVEkENCLOSING CIRCLEuSQUAREuDIAMOND",
    "uCIRCLE BACKSLASHkLEFT RIGHT ARROW ABOVEkENCLOSING SCREENuKEYCAPuUPWARD POINTING TRIANGLE",
    "kREVERSE SOLIDUS OVERLAYkDOUBLE VERTICAL STROKE OVERLAYkANNUITY SYMBOLkTRIPLE UNDERDOT",
    "kWIDE BRIDGE ABOVEkLEFTWARDS ARROW OVERLAYlONG DOUBLE SOLIDUS OVERLAY",
    "kRIGHTWARDS HARPOON WITH BARB DOWNWARDSkLEFTWARDS HARPOON WITH BARB DOWNWARDSo ARROW BELOW",
    "kRIGHT ARROW BELOWkASTERISK ABOVE+16aACCOUNT OFbDDRESSED TO THE SUBJECT",
    "aDOUBLE-STRUCK CAPITAL CbEGREE CELSIUSaCENTRE LINE SYMBOLbARE OFcDA UNAaEULER CONSTANT",
    "aSCRUPLEaDEGREE FAHRENHEITaSCRIPT SMALL GhCAPITAL HaBLACK-LETTER CAPITAL H",
    "aDOUBLE-STRUCK CAPITAL HaPLANCK CONSTANTp OVER TWO PIaSCRIPT CAPITAL IaBLACK-LETTER CAPITAL I",
    "aSCRIPT CAPITAL LhSMALL LaL B BAR SYMBOLaDOUBLE-STRUCK CAPITAL NaNUMERO SIGN",
    "aSOUND RECORDING COPYRIGHTbCRIPT CAPITAL P+0aWEIERSTRASS ELLIPTIC FUNCTION",
    "aDOUBLE-STRUCK CAPITAL PwQaSCRIPT CAPITAL RaBLACK-LETTER CAPITAL RaDOUBLE-STRUCK CAPITAL R",
    "aPRESCRIPTION TAKEaRESPONSEaSERVICE MARKaTELEPHONE SIGNbRADE MARK SIGNaVERSICLE",
    "aDOUBLE-STRUCK CAPITAL ZaOUNCE SIGNbHM SIGNaINVERTED OHM SIGNaBLACK-LETTER CAPITAL Z",
    "aTURNED GREEK SMALL LETTER IOTAaKELVIN SIGNaANGSTROM SIGNaSCRIPT CAPITAL B",
    "aBLACK-LETTER CAPITAL CaESTIMATED SYMBOLaSCRIPT SMALL EhCAPITAL EpFaTURNED CAPITAL F",
    "aSCRIPT CAPITAL MhSMALL OaALEF SYMBOLaBET SYMBOLaGIMEL SYMBOLaDALET SYMBOLaINFORMATION SOURCE",
    "aROTATED CAPITAL QaFACSIMILE SIGNaDOUBLE-STRUCK SMALL PIuGAMMAoCAPITAL GAMMAwPI",
    "oN-ARY SUMMATIONaTURNED SANS-SERIF CAPITAL GbaLaREVERSED SANS-SERIF CAPITAL L",
    "aTURNED SANS-SERIF CAPITAL YaDOUBLE-STRUCK ITALIC CAPITAL DvSMALL DbbEbbIbbJaPROPERTY LINE",
    "aTURNED AMPERSANDaPER SIGNaAKTIESELSKABaTURNED SMALL FaSYMBOL FOR SAMARITAN SOURCE",
    "aVULGAR FRACTION ONE SEVENTHuNINTHuTENTHvHIRDqTWO THIRDSqONE FIFTHqTWO FIFTHSrHREE FIFTHS",
    "qFOUR FIFTHSqONE SIXTHqFIVE SIXTHSqONE EIGHTHqTHREE EIGHTHSqFIVE EIGHTHSqSEVEN EIGHTHS",
    "aFRACTION NUMERATOR ONEaROMAN NUMERAL ONEoTWOpHREEoFOURpIVEoSIXpEVENoEIGHToNINEoTENoELEVEN",
    "oTWELVEoFIFTYoONE HUNDREDoFIVE HUNDREDoONE THOUSANDaSMALL ROMAN NUMERAL ONEuTWOvHREEuFOURvIVE",
    "uSIXvEVENuEIGHTuNINEuTENuELEVENuTWELVEuFIFTYuONE HUNDREDuFIVE HUNDREDuONE THOUSAND",
    "aROMAN NUMERAL ONE THOUSAND C DoFIVE THOUSANDoTEN THOUSANDoREVERSED ONE HUNDRED",
    "aLATIN SMALL LETTER REVERSED CaROMAN NUMERAL SIX LATE FORMoFIFTY EARLY FORMuTHOUSAND",
    "oONE HUNDRED THOUSANDaVULGAR FRACTION ZERO THIRDSaTURNED DIGIT TWOoHREE+5aLEFTWARDS ARROW",
    "aUPWARDS ARROWaRIGHTWARDS ARROWaDOWNWARDS ARROWaLEFT RIGHT ARROWaUP DOWN ARROW",
    "aNORTH WEST ARROWgEAST ARROWaSOUTH EAST ARROWgWEST ARROWaLEFTWARDS ARROW WITH STROKE",
    "aRIGHTWARDS ARROW WITH STROKEaLEFTWARDS WAVE ARROWaRIGHTWARDS WAVE ARROW",
    "aLEFTWARDS TWO HEADED ARROWaUPWARDS TWO HEADED ARROWaRIGHTWARDS TWO HEADED ARROW",
    "aDOWNWARDS TWO HEADED ARROWaLEFTWARDS ARROW WITH TAILaRIGHTWARDS ARROW WITH TAIL",
    "aLEFTWARDS ARROW FROM BARaUPWARDS ARROW FROM BARaRIGHTWARDS ARROW FROM BAR",
    "aDOWNWARDS ARROW FROM BARaUP DOWN ARROW WITH BASEaLEFTWARDS ARROW WITH HOOK",
    "aRIGHTWARDS ARROW WITH HOOKaLEFTWARDS ARROW WITH LOOPaRIGHTWARDS ARROW WITH LOOP",
    "aLEFT RIGHT WAVE ARROWlARROW WITH STROKEaDOWNWARDS ZIGZAG ARROW",
    "aUPWARDS ARROW WITH TIP LEFTWARDSxRIGHTWARDSaDOWNWARDS ARROW WITH TIP LEFTWARDSzRIGHTWARDS",
    "aRIGHTWARDS ARROW WITH CORNER DOWNWARDSaDOWNWARDS ARROW WITH CORNER LEFTWARDS",
    "aANTICLOCKWISE TOP SEMICIRCLE ARROWaCLOCKWISE TOP SEMICIRCLE ARROW",
    "aNORTH WEST ARROW TO LONG BARaLEFTWARDS ARROW TO BAR OVER RIGHTWARDS ARROW TO BAR",
    "aANTICLOCKWISE OPEN CIRCLE ARROWaCLOCKWISE OPEN CIRCLE ARROW",
    "aLEFTWARDS HARPOON WITH BARB UPWARDSbcDOWNWARDSaUPWARDS HARPOON WITH BARB RIGHTWARDS",
    "baLEFTWARDSaRIGHTWARDS HARPOON WITH BARB UPWARDSbdDOWNWARDS",
    "aDOWNWARDS HARPOON WITH BARB RIGHTWARDSbcLEFTWARDSaRIGHTWARDS ARROW OVER LEFTWARDS ARROW",
    "aUPWARDS ARROW LEFTWARDS OF DOWNWARDS ARROWaLEFTWARDS ARROW OVER RIGHTWARDS ARROW",
    "kPAIRED ARROWSaUPWARDS PAIRED ARROWSaRIGHTWARDS PAIRED ARROWSaDOWNWARDS PAIRED ARROWS",
    "aLEFTWARDS HARPOON OVER RIGHTWARDS HARPOONaRIGHTWARDS HARPOON OVER LEFTWARDS HARPOON",
    "aLEFTWARDS DOUBLE ARROW WITH STROKEe RIGHT DOUBLE ARROW WITH STROKE",
    "aRIGHTWARDS DOUBLE ARROW WITH STROKEaLEFTWARDS DOUBLE ARROWaUPWARDS DOUBLE ARROW",
    "aRIGHTWARDS DOUBLE ARROWaDOWNWARDS DOUBLE ARROWaLEFT RIGHT DOUBLE ARROWaUP DOWN DOUBLE ARROW",
    "aNORTH WEST DOUBLE ARROWgEAST DOUBLE ARROWaSOUTH EAST DOUBLE ARROWgWEST DOUBLE ARROW",
    "aLEFTWARDS TRIPLE ARROWaRIGHTWARDS TRIPLE ARROWaLEFTWARDS SQUIGGLE ARROW",
    "aRIGHTWARDS SQUIGGLE ARROWaUPWARDS ARROW WITH DOUBLE STROKE",
    "aDOWNWARDS ARROW WITH DOUBLE STROKEaLEFTWARDS DASHED ARROWaUPWARDS DASHED ARROW",
    "aRIGHTWARDS DASHED ARROWaDOWNWARDS DASHED ARROWaLEFTWARDS ARROW TO BAR",
    "aRIGHTWARDS ARROW TO BARaLEFTWARDS WHITE ARROWaUPWARDS WHITE ARROWaRIGHTWARDS WHITE ARROW",
    "aDOWNWARDS WHITE ARROWaUPWARDS WHITE ARROW FROM BARuON PEDESTALbf WITH HORIZONTAL BAR",
    "blVERTICAL BARoDOUBLE ARROWba ON PEDESTALaRIGHTWARDS WHITE ARROW FROM WALL",
    "aNORTH WEST ARROW TO CORNERaSOUTH EAST ARROW TO CORNERaUP DOWN WHITE ARROW",
    "aRIGHT ARROW WITH SMALL CIRCLEaDOWNWARDS ARROW LEFTWARDS OF UPWARDS ARROW",
    "aTHREE RIGHTWARDS ARROWSaLEFTWARDS ARROW WITH VERTICAL STROKE",
    "aRIGHTWARDS ARROW WITH VERTICAL STROKEaLEFT RIGHT ARROW WITH VERTICAL STROKE",
    "eWARDS ARROW WITH DOUBLE VERTICAL STROKEaRIGHTWARDS ARROW WITH DOUBLE VERTICAL STROKE",
    "aLEFT RIGHT ARROW WITH DOUBLE VERTICAL STROKEeWARDS OPEN-HEADED ARROW",
    "aRIGHTWARDS OPEN-HEADED ARROWaLEFT RIGHT OPEN-HEADED ARROWaFOR ALLaCOMPLEMENT",
    "aPARTIAL DIFFERENTIALaTHERE EXISTSgDOES NOT EXISTaEMPTY SETaINCREMENTaNABLAaELEMENT OF",
    "aNOT AN ELEMENT OFaSMALL ELEMENT OFaCONTAINS AS MEMBERaDOES NOT CONTAIN AS MEMBER",
    "aSMALL CONTAINS AS MEMBERaEND OF PROOFaN-ARY PRODUCTgCOPRODUCTgSUMMATIONaMINUS SIGN",
    "f-OR-PLUS SIGNaDOT PLUSbIVISION SLASHaSET MINUSaASTERISK OPERATORaRING OPERATOR",
    "aBULLET OPERATORaSQUARE ROOTaCUBE ROOTaFOURTH ROOTaPROPORTIONAL TOaINFINITYaRIGHT ANGLEaANGLE",
    "aMEASURED ANGLEaSPHERICAL ANGLEaDIVIDESbOES NOT DIVIDEaPARALLEL TOaNOT PARALLEL TO",
    "aLOGICAL ANDiORaINTERSECTIONaUNIONaINTEGRALaDOUBLE INTEGRALaTRIPLE INTEGRALaCONTOUR INTEGRAL",
    "aSURFACE INTEGRALaVOLUME INTEGRALaCLOCKWISE INTEGRALkCONTOUR INTEGRAL",
    "aANTICLOCKWISE CONTOUR INTEGRALaTHEREFOREaBECAUSEaRATIOaPROPORTIONaDOT MINUSaEXCESS",
    "aGEOMETRIC PROPORTIONaHOMOTHETICaTILDE OPERATORaREVERSED TILDEaINVERTED LAZY SaSINE WAVE",
    "aWREATH PRODUCTaNOT TILDEaMINUS TILDEaASYMPTOTICALLY EQUAL TOaNOT ASYMPTOTICALLY EQUAL TO",
    "aAPPROXIMATELY EQUAL TOoBUT NOT ACTUALLY EQUAL TOaNEITHER APPROXIMATELY NOR ACTUALLY EQUAL TO",
    "aALMOST EQUAL TOaNOT ALMOST EQUAL TOaALMOST EQUAL OR EQUAL TOaTRIPLE TILDEaALL EQUAL TO",
    "aEQUIVALENT TOaGEOMETRICALLY EQUIVALENT TOaDIFFERENCE BETWEENaAPPROACHES THE LIMIT",
    "aGEOMETRICALLY EQUAL TOaAPPROXIMATELY EQUAL TO OR THE IMAGE OF",
    "aIMAGE OF OR APPROXIMATELY EQUAL TOaCOLON EQUALSaEQUALS COLONaRING IN EQUAL TOfEQUAL TO",
    "aCORRESPONDS TOaESTIMATESbQUIANGULAR TOaSTAR EQUALSaDELTA EQUAL TOaEQUAL TO BY DEFINITION",
    "aMEASURED BYaQUESTIONED EQUAL TOaNOT EQUAL TOaIDENTICAL TOaNOT IDENTICAL TO",
    "aSTRICTLY EQUIVALENT TOaLESS-THAN OR EQUAL TOaGREATER-THAN OR EQUAL TO",
    "aLESS-THAN OVER EQUAL TOaGREATER-THAN OVER EQUAL TOaLESS-THAN BUT NOT EQUAL TO",
    "aGREATER-THAN BUT NOT EQUAL TOaMUCH LESS-THANfGREATER-THANaBETWEENaNOT EQUIVALENT TO",
    "eLESS-THANeGREATER-THANbEITHER LESS-THAN NOR EQUAL TOiGREATER-THAN NOR EQUAL TO",
    "aLESS-THAN OR EQUIVALENT TOaGREATER-THAN OR EQUIVALENT TOaNEITHER LESS-THAN NOR EQUIVALENT TO",
    "iGREATER-THAN NOR EQUIVALENT TOaLESS-THAN OR GREATER-THANaGREATER-THAN OR LESS-THAN",
    "aNEITHER LESS-THAN NOR GREATER-THANiGREATER-THAN NOR LESS-THANaPRECEDESaSUCCEEDS",
    "aPRECEDES OR EQUAL TOaSUCCEEDS OR EQUAL TOaPRECEDES OR EQUIVALENT TO",
    "aSUCCEEDS OR EQUIVALENT TOaDOES NOT PRECEDEjSUCCEEDaSUBSET OFcPERSET OFaNOT A SUBSET OF",
    "iPERSET OFaSUBSET OF OR EQUAL TOcPERSET OF OR EQUAL TOaNEITHER A SUBSET OF NOR EQUAL TO",
    "mPERSET OF NOR EQUAL TOaSUBSET OF WITH NOT EQUAL TOcPERSET OF WITH NOT EQUAL TOaMULTISET",
    "i MULTIPLICATIONjUNIONaSQUARE IMAGE OFhORIGINAL OFhIMAGE OF OR EQUAL TO",
    "hORIGINAL OF OR EQUAL TOhCAPiUPaCIRCLED PLUSiMINUSiTIMESiDIVISION SLASHjOT OPERATOR",
    "iRING OPERATORiASTERISK OPERATORiEQUALSiDASHaSQUARED PLUSiMINUSiTIMESiDOT OPERATORaRIGHT TACK",
    "aLEFT TACKaDOWN TACKaUP TACKaASSERTIONaMODELSaTRUEaFORCESaTRIPLE VERTICAL BAR RIGHT TURNSTILE",
    "aDOUBLE VERTICAL BAR DOUBLE RIGHT TURNSTILEcES NOT PROVEaNOT TRUEaDOES NOT FORCE",
    "aNEGATED DOUBLE VERTICAL BAR DOUBLE RIGHT TURNSTILEaPRECEDES UNDER RELATION",
    "aSUCCEEDS UNDER RELATIONaNORMAL SUBGROUP OFaCONTAINS AS NORMAL SUBGROUP",
    "aNORMAL SUBGROUP OF OR EQUAL TOaCONTAINS AS NORMAL SUBGROUP OR EQUAL TOaORIGINAL OFaIMAGE OF",
    "aMULTIMAPaHERMITIAN CONJUGATE MATRIXaINTERCALATEaXORaNANDbORaRIGHT ANGLE WITH ARCgTRIANGLE",
    "aN-ARY LOGICAL ANDoORgINTERSECTIONgUNIONaDIAMOND OPERATORbOT OPERATORaSTAR OPERATOR",
    "aDIVISION TIMESaBOWTIEaLEFT NORMAL FACTOR SEMIDIRECT PRODUCT",
    "aRIGHT NORMAL FACTOR SEMIDIRECT PRODUCTaLEFT SEMIDIRECT PRODUCTaRIGHT SEMIDIRECT PRODUCT",
    "bEVERSED TILDE EQUALSaCURLY LOGICAL ORoANDaDOUBLE SUBSETjPERSEThINTERSECTIONhUNIONaPITCHFORK",
    "aEQUAL AND PARALLEL TOaLESS-THAN WITH DOTaGREATER-THAN WITH DOTaVERY MUCH LESS-THAN",
    "kGREATER-THANaLESS-THAN EQUAL TO OR GREATER-THANaGREATER-THAN EQUAL TO OR LESS-THAN",
    "aEQUAL TO OR LESS-THANmGREATER-THANmPRECEDESmSUCCEEDSaDOES NOT PRECEDE OR EQUAL",
    "jSUCCEED OR EQUALaNOT SQUARE IMAGE OF OR EQUAL TOlORIGINAL OF OR EQUAL TO",
    "aSQUARE IMAGE OF OR NOT EQUAL TOhORIGINAL OF OR NOT EQUAL TOaLESS-THAN BUT NOT EQUIVALENT TO",
    "aGREATER-THAN BUT NOT EQUIVALENT TOaPRECEDES BUT NOT EQUIVALENT TO",
    "aSUCCEEDS BUT NOT EQUIVALENT TOaNOT NORMAL SUBGROUP OFaDOES NOT CONTAIN AS NORMAL SUBGROUP",
    "aNOT NORMAL SUBGROUP OF OR EQUAL TOaDOES NOT CONTAIN AS NORMAL SUBGROUP OR EQUAL",
    "aVERTICAL ELLIPSISaMIDLINE HORIZONTAL ELLIPSISaUP RIGHT DIAGONAL ELLIPSIS",
    "aDOWN RIGHT DIAGONAL ELLIPSISaELEMENT OF WITH LONG HORIZONTAL STROKE",
    "qVERTICAL BAR AT END OF HORIZONTAL STROKE",
    "aSMALL ELEMENT OF WITH VERTICAL BAR AT END OF HORIZONTAL STROKEaELEMENT OF WITH DOT ABOVE",
    "qOVERBARaSMALL ELEMENT OF WITH OVERBARaELEMENT OF WITH UNDERBARqTWO HORIZONTAL STROKES",
    "aCONTAINS WITH LONG HORIZONTAL STROKEoVERTICAL BAR AT END OF HORIZONTAL STROKE",
    "aSMALL CONTAINS WITH VERTICAL BAR AT END OF HORIZONTAL STROKEaCONTAINS WITH OVERBAR",
    "aSMALL CONTAINS WITH OVERBARaZ NOTATION BAG MEMBERSHIPaDIAMETER SIGNaELECTRIC ARROWaHOUSE",
    "aUP ARROWHEADaDOWN ARROWHEADaPROJECTIVEbERSPECTIVEaWAVY LINEaLEFT CEILINGaRIGHT CEILING",
    "aLEFT FLOORaRIGHT FLOORaBOTTOM RIGHT CROPhLEFT CROPaTOP RIGHT CROPeLEFT CROP",
    "aREVERSED NOT SIGNaSQUARE LOZENGEaARCaSEGMENTcCTORaTELEPHONE RECORDERaPOSITION INDICATOR",
    "aVIEWDATA SQUAREaPLACE OF INTEREST SIGNaTURNED NOT SIGNaWATCHaHOURGLASSaTOP LEFT CORNER",
    "eRIGHT CORNERaBOTTOM LEFT CORNERhRIGHT CORNERaTOP HALF INTEGRALaBOTTOM HALF INTEGRALaFROWN",
    "aSMILEaUP ARROWHEAD BETWEEN TWO HORIZONTAL BARSaOPTION KEYaERASE TO THE RIGHT",
    "aX IN A RECTANGLE BOXaKEYBOARDaLEFT-POINTING ANGLE BRACKETaRIGHT-POINTING ANGLE BRACKET",
    "aERASE TO THE LEFTaBENZENE RINGaCYLINDRICITYaALL AROUND-PROFILEaSYMMETRYaTOTAL RUNOUT",
    "aDIMENSION ORIGINaCONICAL TAPERaSLOPEaCOUNTERBOREhSINKaAPL FUNCTIONAL SYMBOL I-BEAM",
    "wSQUISH QUADwQUAD EQUALbbDIVIDEbdAMONDbbJOTbbCIRCLEwCIRCLE STILEbdJOTwSLASH BARwBACKSLASH BAR",
    "wQUAD SLASHbbBACKSLASHbbLESS-THANbbGREATER-THANwLEFTWARDS VANEwRIGHTWARDS VANE",
    "wQUAD LEFTWARDS ARROWbbRIGHTWARDS ARROWwCIRCLE BACKSLASHwDOWN TACK UNDERBARxELTA STILE",
    "wQUAD DOWN CARETbcELTAwDOWN TACK JOTwUPWARDS VANEwQUAD UPWARDS ARROWwUP TACK OVERBAR",
    "wDEL STILEwQUAD UP CARETbbDELwUP TACK JOTwDOWNWARDS VANEwQUAD DOWNWARDS ARROWyOTE UNDERBAR",
    "wDELTA UNDERBARxIAMOND UNDERBARwJOT UNDERBARwCIRCLE UNDERBARwUP SHOE JOTwQUOTE QUAD",
    "wCIRCLE STARwQUAD COLONwUP TACK DIAERESISwDEL DIAERESISwSTAR DIAERESISwJOT DIAERESIS",
    "wCIRCLE DIAERESISwDOWN SHOE STILEwLEFT SHOE STILEwTILDE DIAERESISwGREATER-THAN DIAERESIS",
    "wCOMMA BARwDEL TILDEwZILDEwSTILE TILDExEMICOLON UNDERBARwQUAD NOT EQUALbbQUESTION",
    "wDOWN CARET TILDEwUP CARET TILDEwIOTAwRHOwOMEGAwALPHA UNDERBARwEPSILON UNDERBARwIOTA UNDERBAR",
    "wOMEGA UNDERBARwALPHAaNOT CHECK MARKaRIGHT ANGLE WITH DOWNWARDS ZIGZAG ARROW",
    "aSHOULDERED OPEN BOXaBELL SYMBOLaVERTICAL LINE WITH MIDDLE DOTaINSERTION SYMBOL",
    "aCONTINUOUS UNDERLINE SYMBOLaDISCONTINUOUS UNDERLINE SYMBOLaEMPHASIS SYMBOL",
    "aCOMPOSITION SYMBOLaWHITE SQUARE WITH CENTRE VERTICAL LINEaENTER SYMBOL",
    "aALTERNATIVE KEY SYMBOLaHELM SYMBOLaCIRCLED HORIZONTAL BAR WITH NOTCHiTRIANGLE DOWN",
    "aBROKEN CIRCLE WITH NORTHWEST ARROWaUNDO SYMBOLaMONOSTABLE SYMBOLaHYSTERESIS SYMBOL",
    "aOPEN-CIRCUIT-OUTPUT H-TYPE SYMBOLuL-TYPE SYMBOLaPASSIVE-PULL-DOWN-OUTPUT SYMBOL",
    "nUP-OUTPUT SYMBOLaDIRECT CURRENT SYMBOL FORM TWOaSOFTWARE-FUNCTION SYMBOL",
    "aAPL FUNCTIONAL SYMBOL QUADaDECIMAL SEPARATOR KEY SYMBOLaPREVIOUS PAGEaNEXT PAGE",
    "aPRINT SCREEN SYMBOLaCLEAR SCREEN SYMBOLaLEFT PARENTHESIS UPPER HOOKrEXTENSIONrLOWER HOOK",
    "aRIGHT PARENTHESIS UPPER HOOKsEXTENSIONsLOWER HOOKaLEFT SQUARE BRACKET UPPER CORNERuEXTENSION",
    "uLOWER CORNERaRIGHT SQUARE BRACKET UPPER CORNERvEXTENSIONvLOWER CORNER",
    "aLEFT CURLY BRACKET UPPER HOOKtMIDDLE PIECEtLOWER HOOKaCURLY BRACKET EXTENSION",
    "aRIGHT CURLY BRACKET UPPER HOOKuMIDDLE PIECEuLOWER HOOKaINTEGRAL EXTENSION",
    "aHORIZONTAL LINE EXTENSIONaUPPER LEFT OR LOWER RIGHT CURLY BRACKET SECTION",
    "gRIGHT OR LOWER LEFT CURLY BRACKET SECTIONaSUMMATION TOPkBOTTOMaTOP SQUARE BRACKET",
    "aBOTTOM SQUARE BRACKETv OVER TOP SQUARE BRACKETaRADICAL SYMBOL BOTTOMaLEFT VERTICAL BOX LINE",
    "aRIGHT VERTICAL BOX LINEaHORIZONTAL SCAN LINE-1v3v7v9",
    "aDENTISTRY SYMBOL LIGHT VERTICAL AND TOP RIGHTbkBOTTOM RIGHTbgWITH CIRCLE",
    "xDOWN AND HORIZONTAL WITH CIRCLExUP AND HORIZONTAL WITH CIRCLExVERTICAL WITH TRIANGLE",
    "xDOWN AND HORIZONTAL WITH TRIANGLExUP AND HORIZONTAL WITH TRIANGLExVERTICAL AND WAVE",
    "xDOWN AND HORIZONTAL WITH WAVExUP AND HORIZONTAL WITH WAVExDOWN AND HORIZONTAL",
    "xUP AND HORIZONTALxVERTICAL AND TOP LEFTbkBOTTOM LEFTaSQUARE FOOTaRETURN SYMBOLaEJECT SYMBOL",
    "aVERTICAL LINE EXTENSIONaMETRICAL BREVEjLONG OVER SHORTjSHORT OVER LONGjLONG OVER TWO SHORTS",
    "jTWO SHORTS OVER LONGuJOINEDkRISEMEkETRASEMEjPENTASEMEaEARTH GROUNDaFUSEaTOP PARENTHESIS",
    "aBOTTOM PARENTHESISaTOP CURLY BRACKETaBOTTOM CURLY BRACKETaTOP TORTOISE SHELL BRACKET",
    "aBOTTOM TORTOISE SHELL BRACKETaWHITE TRAPEZIUMaBENZENE RING WITH CIRCLEaSTRAIGHTNESSaFLATNESS",
    "aAC CURRENTaELECTRICAL INTERSECTIONaDECIMAL EXPONENT SYMBOL",
    "aBLACK RIGHT-POINTING DOUBLE TRIANGLEgLEFT-POINTING DOUBLE TRIANGLE",
    "gUP-POINTING DOUBLE TRIANGLEgDOWN-POINTING DOUBLE TRIANGLE",
    "gRIGHT-POINTING DOUBLE TRIANGLE WITH VERTICAL BAR",
    "gLEFT-POINTING DOUBLE TRIANGLE WITH VERTICAL BAR",
    "gRIGHT-POINTING TRIANGLE WITH DOUBLE VERTICAL BARaALARM CLOCKaSTOPWATCHaTIMER CLOCK",
    "aHOURGLASS WITH FLOWING SANDaBLACK MEDIUM LEFT-POINTING TRIANGLEnRIGHT-POINTING TRIANGLE",
    "nUP-POINTING TRIANGLEnDOWN-POINTING TRIANGLEaDOUBLE VERTICAL BARaBLACK SQUARE FOR STOP",
    "gCIRCLE FOR RECORDaPOWER SYMBOLgON-OFF SYMBOLi SYMBOLgSLEEP SYMBOLaOBSERVER EYE SYMBOL",
    "aSYMBOL FOR NULLlSTART OF HEADINGuTEXTlEND OF TEXTtRANSMISSIONnQUIRYlACKNOWLEDGElBELL",
    "mACKSPACElHORIZONTAL TABULATIONlLINE FEEDlVERTICAL TABULATIONlFORM FEEDlCARRIAGE RETURN",
    "lSHIFT OUTrINlDATA LINK ESCAPEmEVICE CONTROL ONEbaTWObbHREEbaFOURlNEGATIVE ACKNOWLEDGE",
    "lSYNCHRONOUS IDLElEND OF TRANSMISSION BLOCKlCANCELlEND OF MEDIUMlSUBSTITUTElESCAPE",
    "lFILE SEPARATORlGROUP SEPARATORlRECORD SEPARATORlUNIT SEPARATORlSPACElDELETEaBLANK SYMBOL",
    "aOPEN BOXaSYMBOL FOR NEWLINElDELETE FORM TWOlSUBSTITUTE FORM TWO+26aOCR HOOKeCHAIReFORK",
    "eINVERTED FORKeBELT BUCKLEfOW TIEfRANCH BANK IDENTIFICATIONeAMOUNT OF CHECKaMICR ON US SYMBOL",
    "+0aOCR DASHaMICR DASH SYMBOL+0aOCR CUSTOMER ACCOUNT NUMBEReDOUBLE BACKSLASH",
    "+22aCIRCLED DIGIT ONEoTWOpHREEoFOURpIVEoSIXpEVENoEIGHToNINEiNUMBER TENpELEVENpTWELVEqHIRTEEN",
    "pFOURTEENqIFTEENpSIXTEENqEVENTEENpEIGHTEENpNINETEENpTWENTYaPARENTHESIZED DIGIT ONEuTWOvHREE",
    "uFOURvIVEuSIXvEVENuEIGHTuNINEoNUMBER TENvELEVENvTWELVEwHIRTEENvFOURTEENwIFTEENvSIXTEEN",
    "wEVENTEENvEIGHTEENvNINETEENvTWENTYaDIGIT ONE FULL STOPgTWO FULL STOPhHREE FULL STOP",
    "gFOUR FULL STOPhIVE FULL STOPgSIX FULL STOPhEVEN FULL STOPgEIGHT FULL STOPgNINE FULL STOP",
    "aNUMBER TEN FULL STOPhELEVEN FULL STOPhTWELVE FULL STOPiHIRTEEN FULL STOPhFOURTEEN FULL STOP",
    "iIFTEEN FULL STOPhSIXTEEN FULL STOPiEVENTEEN FULL STOPhEIGHTEEN FULL STOPhNINETEEN FULL STOP",
    "hTWENTY FULL STOPaPARENTHESIZED LATIN SMALL LETTER AbhBbhCbhDbhEbhFbhGbhHbhIbhJbhKbhLbhMbhN",
    "bhObhPbhQbhRbhSbhTbhUbhVbhWbhXbhYbhZaCIRCLED LATIN CAPITAL LETTER AbdBbdCbdDbdEbdFbdGbdHbdI",
    "bdJbdKbdLbdMbdNbdObdPbdQbdRbdSbdTbdUbdVbdWbdXbdYbdZoSMALL LETTER AbbBbbCbbDbbEbbFbbGbbHbbIbbJ",
    "bbKbbLbbMbbNbbObbPbbQbbRbbSbbTbbUbbVbbWbbXbbYbbZiDIGIT ZEROaNEGATIVE CIRCLED NUMBER ELEVEN",
    "yTWELVEzHIRTEENyFOURTEENzIFTEENySIXTEENzEVENTEENyEIGHTEENyNINETEENyTWENTY",
    "aDOUBLE CIRCLED DIGIT ONEvTWOwHREEvFOURwIVEvSIXwEVENvEIGHTvNINEpNUMBER TEN",
    "aNEGATIVE CIRCLED DIGIT ZEROaBOX DRAWINGS LIGHT HORIZONTALnHEAVY HORIZONTALnLIGHT VERTICAL",
    "nHEAVY VERTICALnLIGHT TRIPLE DASH HORIZONTALnHEAVY TRIPLE DASH HORIZONTAL",
    "nLIGHT TRIPLE DASH VERTICALnHEAVY TRIPLE DASH VERTICALnLIGHT QUADRUPLE DASH HORIZONTAL",
    "nHEAVY QUADRUPLE DASH HORIZONTALnLIGHT QUADRUPLE DASH VERTICALnHEAVY QUADRUPLE DASH VERTICAL",
    "nLIGHT DOWN AND RIGHTnDOWN LIGHT AND RIGHT HEAVYsHEAVY AND RIGHT LIGHTnHEAVY DOWN AND RIGHT",
    "nLIGHT DOWN AND LEFTnDOWN LIGHT AND LEFT HEAVYsHEAVY AND LEFT LIGHTnHEAVY DOWN AND LEFT",
    "nLIGHT UP AND RIGHTnUP LIGHT AND RIGHT HEAVYqHEAVY AND RIGHT LIGHTnHEAVY UP AND RIGHT",
    "nLIGHT UP AND LEFTnUP LIGHT AND LEFT HEAVYqHEAVY AND LEFT LIGHTnHEAVY UP AND LEFT",
    "nLIGHT VERTICAL AND RIGHTnVERTICAL LIGHT AND RIGHT HEAVYnUP HEAVY AND RIGHT DOWN LIGHT",
    "nDOWN HEAVY AND RIGHT UP LIGHTnVERTICAL HEAVY AND RIGHT LIGHTnDOWN LIGHT AND RIGHT UP HEAVY",
    "nUP LIGHT AND RIGHT DOWN HEAVYnHEAVY VERTICAL AND RIGHTnLIGHT VERTICAL AND LEFT",
    "nVERTICAL LIGHT AND LEFT HEAVYnUP HEAVY AND LEFT DOWN LIGHTnDOWN HEAVY AND LEFT UP LIGHT",
    "nVERTICAL HEAVY AND LEFT LIGHTnDOWN LIGHT AND LEFT UP HEAVYnUP LIGHT AND LEFT DOWN HEAVY",
    "nHEAVY VERTICAL AND LEFTnLIGHT DOWN AND HORIZONTALoEFT HEAVY AND RIGHT DOWN LIGHT",
    "nRIGHT HEAVY AND LEFT DOWN LIGHTnDOWN LIGHT AND HORIZONTAL HEAVYsHEAVY AND HORIZONTAL LIGHT",
    "nRIGHT LIGHT AND LEFT DOWN HEAVYnLEFT LIGHT AND RIGHT DOWN HEAVYnHEAVY DOWN AND HORIZONTAL",
    "nLIGHT UP AND HORIZONTALoEFT HEAVY AND RIGHT UP LIGHTnRIGHT HEAVY AND LEFT UP LIGHT",
    "nUP LIGHT AND HORIZONTAL HEAVYqHEAVY AND HORIZONTAL LIGHTnRIGHT LIGHT AND LEFT UP HEAVY",
    "nLEFT LIGHT AND RIGHT UP HEAVYnHEAVY UP AND HORIZONTALnLIGHT VERTICAL AND HORIZONTAL",
    "oEFT HEAVY AND RIGHT VERTICAL LIGHTnRIGHT HEAVY AND LEFT VERTICAL LIGHT",
    "nVERTICAL LIGHT AND HORIZONTAL HEAVYnUP HEAVY AND DOWN HORIZONTAL LIGHT",
    "nDOWN HEAVY AND UP HORIZONTAL LIGHTnVERTICAL HEAVY AND HORIZONTAL LIGHT",
    "nLEFT UP HEAVY AND RIGHT DOWN LIGHTnRIGHT UP HEAVY AND LEFT DOWN LIGHT",
    "nLEFT DOWN HEAVY AND RIGHT UP LIGHTnRIGHT DOWN HEAVY AND LEFT UP LIGHT",
    "nDOWN LIGHT AND UP HORIZONTAL HEAVYnUP LIGHT AND DOWN HORIZONTAL HEAVY",
    "nRIGHT LIGHT AND LEFT VERTICAL HEAVYnLEFT LIGHT AND RIGHT VERTICAL HEAVY",
    "nHEAVY VERTICAL AND HORIZONTALnLIGHT DOUBLE DASH HORIZONTALnHEAVY DOUBLE DASH HORIZONTAL",
    "nLIGHT DOUBLE DASH VERTICALnHEAVY DOUBLE DASH VERTICALnDOUBLE HORIZONTALuVERTICAL",
    "pWN SINGLE AND RIGHT DOUBLEsDOUBLE AND RIGHT SINGLEpUBLE DOWN AND RIGHT",
    "pWN SINGLE AND LEFT DOUBLEsDOUBLE AND LEFT SINGLEpUBLE DOWN AND LEFT",
    "nUP SINGLE AND RIGHT DOUBLEqDOUBLE AND RIGHT SINGLEnDOUBLE UP AND RIGHT",
    "nUP SINGLE AND LEFT DOUBLEqDOUBLE AND LEFT SINGLEnDOUBLE UP AND LEFT",
    "nVERTICAL SINGLE AND RIGHT DOUBLEwDOUBLE AND RIGHT SINGLEnDOUBLE VERTICAL AND RIGHT",
    "nVERTICAL SINGLE AND LEFT DOUBLEwDOUBLE AND LEFT SINGLEnDOUBLE VERTICAL AND LEFT",
    "pWN SINGLE AND HORIZONTAL DOUBLEsDOUBLE AND HORIZONTAL SINGLEpUBLE DOWN AND HORIZONTAL",
    "nUP SINGLE AND HORIZONTAL DOUBLEqDOUBLE AND HORIZONTAL SINGLEnDOUBLE UP AND HORIZONTAL",
    "nVERTICAL SINGLE AND HORIZONTAL DOUBLEwDOUBLE AND HORIZONTAL SINGLE",
    "nDOUBLE VERTICAL AND HORIZONTALnLIGHT ARC DOWN AND RIGHTbgLEFTxUP AND LEFTbeRIGHT",
    "tDIAGONAL UPPER RIGHT TO LOWER LEFTbiLEFT TO LOWER RIGHTbcCROSStLEFTtUPtRIGHTtDOWNnHEAVY LEFT",
    "tUPtRIGHTtDOWNnLIGHT LEFT AND HEAVY RIGHTtUP AND HEAVY DOWNnHEAVY LEFT AND LIGHT RIGHT",
    "tUP AND LIGHT DOWNaUPPER HALF BLOCKaLOWER ONE EIGHTH BLOCKkQUARTER BLOCKgTHREE EIGHTHS BLOCK",
    "gHALF BLOCKgFIVE EIGHTHS BLOCKgTHREE QUARTERS BLOCKgSEVEN EIGHTHS BLOCKaFULL BLOCK",
    "aLEFT SEVEN EIGHTHS BLOCKfTHREE QUARTERS BLOCKfFIVE EIGHTHS BLOCKfHALF BLOCK",
    "fTHREE EIGHTHS BLOCKfONE QUARTER BLOCKjEIGHTH BLOCKaRIGHT HALF BLOCKaLIGHT SHADEaMEDIUM SHADE",
    "aDARK SHADEaUPPER ONE EIGHTH BLOCKaRIGHT ONE EIGHTH BLOCKaQUADRANT LOWER LEFTpRIGHT",
    "jUPPER LEFTt AND LOWER LEFT AND LOWER RIGHTbeRIGHTyUPPER RIGHT AND LOWER LEFTbuRIGHTpRIGHT",
    "u AND LOWER LEFTbj AND LOWER RIGHTaBLACK SQUAREaWHITE SQUAREm WITH ROUNDED CORNERS",
    "nCONTAINING BLACK SMALL SQUAREaSQUARE WITH HORIZONTAL FILLmVERTICAL FILL",
    "mORTHOGONAL CROSSHATCH FILLmUPPER LEFT TO LOWER RIGHT FILLsRIGHT TO LOWER LEFT FILL",
    "mDIAGONAL CROSSHATCH FILLaBLACK SMALL SQUAREaWHITE SMALL SQUAREaBLACK RECTANGLE",
    "aWHITE RECTANGLEaBLACK VERTICAL RECTANGLEaWHITE VERTICAL RECTANGLEaBLACK PARALLELOGRAM",
    "aWHITE PARALLELOGRAMaBLACK UP-POINTING TRIANGLEaWHITE UP-POINTING TRIANGLE",
    "aBLACK UP-POINTING SMALL TRIANGLEaWHITE UP-POINTING SMALL TRIANGLE",
    "aBLACK RIGHT-POINTING TRIANGLEaWHITE RIGHT-POINTING TRIANGLE",
    "aBLACK RIGHT-POINTING SMALL TRIANGLEaWHITE RIGHT-POINTING SMALL TRIANGLE",
    "aBLACK RIGHT-POINTING POINTERaWHITE RIGHT-POINTING POINTERaBLACK DOWN-POINTING TRIANGLE",
    "aWHITE DOWN-POINTING TRIANGLEaBLACK DOWN-POINTING SMALL TRIANGLE",
    "aWHITE DOWN-POINTING SMALL TRIANGLEaBLACK LEFT-POINTING TRIANGLEaWHITE LEFT-POINTING TRIANGLE",
    "aBLACK LEFT-POINTING SMALL TRIANGLEaWHITE LEFT-POINTING SMALL TRIANGLE",
    "aBLACK LEFT-POINTING POINTERaWHITE LEFT-POINTING POINTERaBLACK DIAMONDaWHITE DIAMOND",
    "n CONTAINING BLACK SMALL DIAMONDaFISHEYEaLOZENGEaWHITE CIRCLEaDOTTED CIRCLE",
    "aCIRCLE WITH VERTICAL FILLaBULLSEYEbLACK CIRCLEaCIRCLE WITH LEFT HALF BLACKmRIGHT HALF BLACK",
    "mLOWER HALF BLACKmUPPER HALF BLACKsRIGHT QUADRANT BLACKmALL BUT UPPER LEFT QUADRANT BLACK",
    "aLEFT HALF BLACK CIRCLEaRIGHT HALF BLACK CIRCLEaINVERSE BULLETiWHITE CIRCLE",
    "aUPPER HALF INVERSE WHITE CIRCLEaLOWER HALF INVERSE WHITE CIRCLE",
    "aUPPER LEFT QUADRANT CIRCULAR ARCgRIGHT QUADRANT CIRCULAR ARC",
    "aLOWER RIGHT QUADRANT CIRCULAR ARCgLEFT QUADRANT CIRCULAR ARCaUPPER HALF CIRCLE",
    "aLOWER HALF CIRCLEaBLACK LOWER RIGHT TRIANGLEmLEFT TRIANGLEgUPPER LEFT TRIANGLE",
    "mRIGHT TRIANGLEaWHITE BULLETaSQUARE WITH LEFT HALF BLACKmRIGHT HALF BLACK",
    "mUPPER LEFT DIAGONAL HALF BLACKmLOWER RIGHT DIAGONAL HALF BLACK",
    "aWHITE SQUARE WITH VERTICAL BISECTING LINEgUP-POINTING TRIANGLE WITH DOT",
    "aUP-POINTING TRIANGLE WITH LEFT HALF BLACKbaRIGHT HALF BLACKaLARGE CIRCLE",
    "aWHITE SQUARE WITH UPPER LEFT QUADRANTsLOWER LEFT QUADRANTyRIGHT QUADRANT",
    "sUPPER RIGHT QUADRANTgCIRCLE WITH UPPER LEFT QUADRANTsLOWER LEFT QUADRANTyRIGHT QUADRANT",
    "sUPPER RIGHT QUADRANTaUPPER LEFT TRIANGLEgRIGHT TRIANGLEaLOWER LEFT TRIANGLE",
    "aWHITE MEDIUM SQUAREaBLACK MEDIUM SQUAREaWHITE MEDIUM SMALL SQUAREaBLACK MEDIUM SMALL SQUARE",
    "aLOWER RIGHT TRIANGLEaBLACK SUN WITH RAYSaCLOUDaUMBRELLAaSNOWMANaCOMETaBLACK STARaWHITE STAR",
    "aLIGHTNINGaTHUNDERSTORMaSUNaASCENDING NODEaDESCENDING NODEaCONJUNCTIONaOPPOSITION",
    "aBLACK TELEPHONEaWHITE TELEPHONEaBALLOT BOXk WITH CHECKqXaSALTIREaUMBRELLA WITH RAIN DROPS",
    "aHOT BEVERAGEaWHITE SHOGI PIECEaBLACK SHOGI PIECEaSHAMROCK",
    "aREVERSED ROTATED FLORAL HEART BULLETaBLACK LEFT POINTING INDEXgRIGHT POINTING INDEX",
    "aWHITE LEFT POINTING INDEXgUP POINTING INDEXgRIGHT POINTING INDEXgDOWN POINTING INDEX",
    "aSKULL AND CROSSBONESaCAUTION SIGNaRADIOACTIVE SIGNaBIOHAZARD SIGNaCADUCEUSaANKH",
    "aORTHODOX CROSSaCHI RHObROSS OF LORRAINEjJERUSALEMaSTAR AND CRESCENTaFARSI SYMBOLaADI SHAKTI",
    "aHAMMER AND SICKLEaPEACE SYMBOLaYIN YANGaTRIGRAM FOR HEAVENmLAKEmFIREmTHUNDERmWINDnATER",
    "mMOUNTAINmEARTHaWHEEL OF DHARMAcITE FROWNING FACEgSMILING FACEaBLACK SMILING FACE",
    "aWHITE SUN WITH RAYSaFIRST QUARTER MOONaLAST QUARTER MOONaMERCURYaFEMALE SIGNaEARTHaMALE SIGN",
    "aJUPITERaSATURNaURANUSaNEPTUNEaPLUTOaARIESaTAURUSaGEMINIaCANCERaLEOaVIRGOaLIBRAaSCORPIUS",
    "bAGITTARIUSaCAPRICORNaAQUARIUSaPISCESaWHITE CHESS KINGmQUEENmROOKmBISHOPmKNIGHTmPAWN",
    "aBLACK CHESS KINGmQUEENmROOKmBISHOPmKNIGHTmPAWNgSPADE SUITaWHITE HEART SUITgDIAMOND SUIT",
    "aBLACK CLUB SUITaWHITE SPADE SUITaBLACK HEART SUITgDIAMOND SUITaWHITE CLUB SUITaHOT SPRINGS",
    "aQUARTER NOTEaEIGHTH NOTEaBEAMED EIGHTH NOTEShSIXTEENTH NOTESaMUSIC FLAT SIGNgNATURAL SIGN",
    "gSHARP SIGNaWEST SYRIAC CROSSaEAST SYRIAC CROSSaUNIVERSAL RECYCLING SYMBOL",
    "aRECYCLING SYMBOL FOR TYPE-1 PLASTICSba2 PLASTICSba3 PLASTICSba4 PLASTICSba5 PLASTICS",
    "ba6 PLASTICSba7 PLASTICSvGENERIC MATERIALSaBLACK UNIVERSAL RECYCLING SYMBOL",
    "aRECYCLED PAPER SYMBOLaPARTIALLY-RECYCLED PAPER SYMBOLbERMANENT PAPER SIGNaWHEELCHAIR SYMBOL",
    "aDIE FACE-1j2j3j4j5j6aWHITE CIRCLE WITH DOT RIGHTsTWO DOTSaBLACK CIRCLE WITH WHITE DOT RIGHT",
    "sTWO WHITE DOTSaMONOGRAM FOR YANGoINaDIGRAM FOR GREATER YANGlLESSER YINtANGlGREATER YIN",
    "aWHITE FLAGaBLACK FLAGaHAMMER AND PICKaANCHORaCROSSED SWORDSaSTAFF OF AESCULAPIUSbCALES",
    "aALEMBICaFLOWERaGEARaSTAFF OF HERMESaATOM SYMBOLaFLEUR-DE-LISaOUTLINED WHITE STAR",
    "aTHREE LINES CONVERGING RIGHTxLEFTaWARNING SIGNaHIGH VOLTAGE SIGNaDOUBLED FEMALE SIGN",
    "iMALE SIGNaINTERLOCKED FEMALE AND MALE SIGNaMALE AND FEMALE SIGNfWITH STROKE SIGN",
    "rAND MALE AND FEMALE SIGNaVERTICAL MALE WITH STROKE SIGNaHORIZONTAL MALE WITH STROKE SIGN",
    "aMEDIUM WHITE CIRCLEhBLACK CIRCLEhSMALL WHITE CIRCLEbARRIAGE SYMBOLaDIVORCE SYMBOL",
    "aUNMARRIED PARTNERSHIP SYMBOLaCOFFINaFUNERAL URNaNEUTERaCERESaPALLASaJUNOaVESTAaCHIRON",
    "aBLACK MOON LILITHaSEXTILEcMISEXTILEaQUINCUNXaSESQUIQUADRATEbOCCER BALLaBASEBALLaSQUARED KEY",
    "aWHITE DRAUGHTS MANpKINGaBLACK DRAUGHTS MANpKINGaSNOWMAN WITHOUT SNOWbUN BEHIND CLOUDaRAIN",
    "aBLACK SNOWMANaTHUNDER CLOUD AND RAINbURNED WHITE SHOGI PIECEhBLACK SHOGI PIECE",
    "aWHITE DIAMOND IN SQUAREaCROSSING LANESaDISABLED CARaOPHIUCHUSaPICKaCAR SLIDING",
    "aHELMET WITH WHITE CROSSaCIRCLED CROSSING LANESbHAINSaNO ENTRY",
    "aALTERNATE ONE-WAY LEFT WAY TRAFFICaBLACK TWO-WAY LEFT WAY TRAFFIC",
    "aWHITE TWO-WAY LEFT WAY TRAFFICaBLACK LEFT LANE MERGEaWHITE LEFT LANE MERGEaDRIVE SLOW SIGN",
    "aHEAVY WHITE DOWN-POINTING TRIANGLEaLEFT CLOSED ENTRYaSQUARED SALTIRE",
    "aFALLING DIAGONAL IN WHITE CIRCLE IN BLACK SQUAREaBLACK TRUCKaRESTRICTED LEFT ENTRY-1w2",
    "aASTRONOMICAL SYMBOL FOR URANUSaHEAVY CIRCLE WITH STROKE AND TWO DOTS ABOVEaPENTAGRAM",
    "aRIGHT-HANDED INTERLACED PENTAGRAMaLEFT-HANDED INTERLACED PENTAGRAMaINVERTED PENTAGRAM",
    "aBLACK CROSS ON SHIELDaSHINTO SHRINEaCHURCHbASTLEaHISTORIC SITEaGEAR WITHOUT HUBj HANDLES",
    "aMAP SYMBOL FOR LIGHTHOUSEbOUNTAINaUMBRELLA ON GROUNDaFOUNTAINbLAG IN HOLEbERRYaSAILBOAT",
    "bQUARE FOUR CORNERSbKIERaICE SKATEaPERSON WITH BALLaTENTaJAPANESE BANK SYMBOL",
    "aHEADSTONE GRAVEYARD SYMBOLaFUEL PUMPaCUP ON BLACK SQUARE",
    "aWHITE FLAG WITH HORIZONTAL MIDDLE BLACK STRIPEaBLACK SAFETY SCISSORSaUPPER BLADE SCISSORS",
    "aBLACK SCISSORSaLOWER BLADE SCISSORSaWHITE SCISSORSgHEAVY CHECK MARKaTELEPHONE LOCATION SIGN",
    "bAPE DRIVEaAIRPLANEaENVELOPEaRAISED FISThHANDaVICTORY HANDaWRITING HANDaLOWER RIGHT PENCIL",
    "aPENCILaUPPER RIGHT PENCILaWHITE NIBaBLACK NIBaCHECK MARKaHEAVY CHECK MARKaMULTIPLICATION X",
    "aHEAVY MULTIPLICATION XaBALLOT XaHEAVY BALLOT XaOUTLINED GREEK CROSSaHEAVY GREEK CROSS",
    "aOPEN CENTRE CROSSaHEAVY OPEN CENTRE CROSSaLATIN CROSSaSHADOWED WHITE LATIN CROSS",
    "aOUTLINED LATIN CROSSaMALTESE CROSSaSTAR OF DAVIDaFOUR TEARDROP-SPOKED ASTERISK",
    "fBALLOON-SPOKED ASTERISKaHEAVY FOUR BALLOON-SPOKED ASTERISKaFOUR CLUB-SPOKED ASTERISK",
    "aBLACK FOUR POINTED STARaWHITE FOUR POINTED STARaSPARKLESbTRESS OUTLINED WHITE STAR",
    "aCIRCLED WHITE STARaOPEN CENTRE BLACK STARaBLACK CENTRE WHITE STARaOUTLINED BLACK STAR",
    "aHEAVY OUTLINED BLACK STARaPINWHEEL STARaSHADOWED WHITE STARaHEAVY ASTERISK",
    "aOPEN CENTRE ASTERISKaEIGHT SPOKED ASTERISKgPOINTED BLACK STARoPINWHEEL STAR",
    "aSIX POINTED BLACK STARaEIGHT POINTED RECTILINEAR BLACK STAR",
    "aHEAVY EIGHT POINTED RECTILINEAR BLACK STARaTWELVE POINTED BLACK STAR",
    "aSIXTEEN POINTED ASTERISKaTEARDROP-SPOKED ASTERISKaOPEN CENTRE TEARDROP-SPOKED ASTERISK",
    "aHEAVY TEARDROP-SPOKED ASTERISKaSIX PETALLED BLACK AND WHITE FLORETTEaBLACK FLORETTE",
    "aWHITE FLORETTEaEIGHT PETALLED OUTLINED BLACK FLORETTEaCIRCLED OPEN CENTRE EIGHT POINTED STAR",
    "aHEAVY TEARDROP-SPOKED PINWHEEL ASTERISKaSNOWFLAKEaTIGHT TRIFOLIATE SNOWFLAKE",
    "aHEAVY CHEVRON SNOWFLAKEaSPARKLEaHEAVY SPARKLEaBALLOON-SPOKED ASTERISK",
    "aEIGHT TEARDROP-SPOKED PROPELLER ASTERISKaHEAVY EIGHT TEARDROP-SPOKED PROPELLER ASTERISK",
    "aCROSS MARKaSHADOWED WHITE CIRCLEaNEGATIVE SQUARED CROSS MARK",
    "aLOWER RIGHT DROP-SHADOWED WHITE SQUAREaUPPER RIGHT DROP-SHADOWED WHITE SQUARE",
    "aLOWER RIGHT SHADOWED WHITE SQUAREaUPPER RIGHT SHADOWED WHITE SQUARE",
    "aBLACK QUESTION MARK ORNAMENTaWHITE QUESTION MARK ORNAMENTgEXCLAMATION MARK ORNAMENT",
    "aBLACK DIAMOND MINUS WHITE XaHEAVY EXCLAMATION MARK SYMBOLaLIGHT VERTICAL BAR",
    "aMEDIUM VERTICAL BARaHEAVY VERTICAL BARgSINGLE TURNED COMMA QUOTATION MARK ORNAMENT",
    "nCOMMA QUOTATION MARK ORNAMENTgDOUBLE TURNED COMMA QUOTATION MARK ORNAMENT",
    "nCOMMA QUOTATION MARK ORNAMENTgLOW SINGLE COMMA QUOTATION MARK ORNAMENT",
    "kDOUBLE COMMA QUOTATION MARK ORNAMENTaCURVED STEM PARAGRAPH SIGN ORNAMENT",
    "aHEAVY EXCLAMATION MARK ORNAMENTgHEART EXCLAMATION MARK ORNAMENTgBLACK HEART",
    "aROTATED HEAVY BLACK HEART BULLETaFLORAL HEARTaROTATED FLORAL HEART BULLET",
    "aMEDIUM LEFT PARENTHESIS ORNAMENThRIGHT PARENTHESIS ORNAMENT",
    "hFLATTENED LEFT PARENTHESIS ORNAMENTrRIGHT PARENTHESIS ORNAMENT",
    "hLEFT-POINTING ANGLE BRACKET ORNAMENThRIGHT-POINTING ANGLE BRACKET ORNAMENT",
    "aHEAVY LEFT-POINTING ANGLE QUOTATION MARK ORNAMENT",
    "gRIGHT-POINTING ANGLE QUOTATION MARK ORNAMENTgLEFT-POINTING ANGLE BRACKET ORNAMENT",
    "gRIGHT-POINTING ANGLE BRACKET ORNAMENTaLIGHT LEFT TORTOISE SHELL BRACKET ORNAMENT",
    "gRIGHT TORTOISE SHELL BRACKET ORNAMENTaMEDIUM LEFT CURLY BRACKET ORNAMENT",
    "hRIGHT CURLY BRACKET ORNAMENTaDINGBAT NEGATIVE CIRCLED DIGIT ONEbfTWObgHREEbfFOURbgIVEbfSIX",
    "bgEVENbfEIGHTbfNINEzNUMBER TENiCIRCLED SANS-SERIF DIGIT ONEbhTWObiHREEbhFOURbiIVEbhSIXbiEVEN",
    "bhEIGHTbhNINEbbNUMBER TENiNEGATIVE CIRCLED SANS-SERIF DIGIT ONEbqTWObrHREEbqFOURbrIVEbqSIX",
    "brEVENbqEIGHTbqNINEbkNUMBER TENaHEAVY WIDE-HEADED RIGHTWARDS ARROWgPLUS SIGNgMINUS SIGN",
    "gDIVISION SIGNgSOUTH EAST ARROWgRIGHTWARDS ARROWgNORTH EAST ARROW",
    "aDRAFTING POINT RIGHTWARDS ARROWaHEAVY ROUND-TIPPED RIGHTWARDS ARROW",
    "aTRIANGLE-HEADED RIGHTWARDS ARROWaHEAVY TRIANGLE-HEADED RIGHTWARDS ARROW",
    "aDASHED TRIANGLE-HEADED RIGHTWARDS ARROWaHEAVY DASHED TRIANGLE-HEADED RIGHTWARDS ARROW",
    "aBLACK RIGHTWARDS ARROWaTHREE-D TOP-LIGHTED RIGHTWARDS ARROWHEAD",
    "iBOTTOM-LIGHTED RIGHTWARDS ARROWHEADaBLACK RIGHTWARDS ARROWHEAD",
    "aHEAVY BLACK CURVED DOWNWARDS AND RIGHTWARDS ARROWtUPWARDS AND RIGHTWARDS ARROW",
    "aSQUAT BLACK RIGHTWARDS ARROWaHEAVY CONCAVE-POINTED BLACK RIGHTWARDS ARROW",
    "aRIGHT-SHADED WHITE RIGHTWARDS ARROWaLEFT-SHADED WHITE RIGHTWARDS ARROW",
    "aBACK-TILTED SHADOWED WHITE RIGHTWARDS ARROWaFRONT-TILTED SHADOWED WHITE RIGHTWARDS ARROW",
    "aHEAVY LOWER RIGHT-SHADOWED WHITE RIGHTWARDS ARROW",
    "gUPPER RIGHT-SHADOWED WHITE RIGHTWARDS ARROW",
    "aNOTCHED LOWER RIGHT-SHADOWED WHITE RIGHTWARDS ARROWaCURLY LOOP",
    "aNOTCHED UPPER RIGHT-SHADOWED WHITE RIGHTWARDS ARROWaCIRCLED HEAVY WHITE RIGHTWARDS ARROW",
    "aWHITE-FEATHERED RIGHTWARDS ARROWaBLACK-FEATHERED SOUTH EAST ARROWqRIGHTWARDS ARROW",
    "qNORTH EAST ARROWaHEAVY BLACK-FEATHERED SOUTH EAST ARROWwRIGHTWARDS ARROWwNORTH EAST ARROW",
    "aTEARDROP-BARBED RIGHTWARDS ARROWaHEAVY TEARDROP-SHANKED RIGHTWARDS ARROW",
    "aWEDGE-TAILED RIGHTWARDS ARROWaHEAVY WEDGE-TAILED RIGHTWARDS ARROW",
    "aOPEN-OUTLINED RIGHTWARDS ARROWaDOUBLE CURLY LOOPaTHREE DIMENSIONAL ANGLE",
    "aWHITE TRIANGLE CONTAINING SMALL WHITE TRIANGLEaPERPENDICULARaOPEN SUBSEThPERSET",
    "aLEFT S-SHAPED BAG DELIMITERaRIGHT S-SHAPED BAG DELIMITERaOR WITH DOT INSIDE",
    "aREVERSE SOLIDUS PRECEDING SUBSETaSUPERSET PRECEDING SOLIDUS",
    "aVERTICAL BAR WITH HORIZONTAL STROKEaMATHEMATICAL RISING DIAGONALaLONG DIVISION",
    "aMATHEMATICAL FALLING DIAGONALaSQUARED LOGICAL ANDqORaWHITE DIAMOND WITH CENTRED DOT",
    "aAND WITH DOTaELEMENT OF OPENING UPWARDSaLOWER RIGHT CORNER WITH DOT",
    "aUPPER LEFT CORNER WITH DOTaLEFT OUTER JOINaRIGHT OUTER JOINaFULL OUTER JOINaLARGE UP TACK",
    "gDOWN TACKbEFT AND RIGHT DOUBLE TURNSTILEpTACKfMULTIMAPbONG RIGHT TACKfLEFT TACK",
    "aUP TACK WITH CIRCLE ABOVEaLOZENGE DIVIDED BY HORIZONTAL RULEaWHITE CONCAVE-SIDED DIAMOND",
    "bb WITH LEFTWARDS TICKbhRIGHTWARDS TICKgSQUARE WITH LEFTWARDS TICKsRIGHTWARDS TICK",
    "aMATHEMATICAL LEFT WHITE SQUARE BRACKETnRIGHT WHITE SQUARE BRACKETnLEFT ANGLE BRACKET",
    "nRIGHT ANGLE BRACKETnLEFT DOUBLE ANGLE BRACKETnRIGHT DOUBLE ANGLE BRACKET",
    "nLEFT WHITE TORTOISE SHELL BRACKETnRIGHT WHITE TORTOISE SHELL BRACKET",
    "nLEFT FLATTENED PARENTHESISnRIGHT FLATTENED PARENTHESISaUPWARDS QUADRUPLE ARROW",
    "aDOWNWARDS QUADRUPLE ARROWaANTICLOCKWISE GAPPED CIRCLE ARROWaCLOCKWISE GAPPED CIRCLE ARROW",
    "aRIGHT ARROW WITH CIRCLED PLUSaLONG LEFTWARDS ARROWfRIGHTWARDS ARROWfLEFT RIGHT ARROW",
    "jWARDS DOUBLE ARROWfRIGHTWARDS DOUBLE ARROWfLEFT RIGHT DOUBLE ARROWjWARDS ARROW FROM BAR",
    "fRIGHTWARDS ARROW FROM BARfLEFTWARDS DOUBLE ARROW FROM BARfRIGHTWARDS DOUBLE ARROW FROM BAR",
    "qSQUIGGLE ARROWaBRAILLE PATTERN BLANKqDOTS-1v2v12v3v13v23v123v4v14v24v124v34v134v234v1234v5",
    "v15v25v125v35v135v235v1235v45v145v245v1245v345v1345v2345v12345v6v16v26v126v36v136v236v1236v46",
    "v146v246v1246v346v1346v2346v12346v56v156v256v1256v356v1356v2356v12356v456v1456v2456v12456",
    "v3456v13456v23456v123456v7v17v27v127v37v137v237v1237v47v147v247v1247v347v1347v2347v12347v57",
    "v157v257v1257v357v1357v2357v12357v457v1457v2457v12457v3457v13457v23457v123457v67v167v267v1267",
    "v367v1367v2367v12367v467v1467v2467v12467v3467v13467v23467v123467v567v1567v2567v12567v3567",
    "v13567v23567v123567v4567v14567v24567v124567v34567v134567v234567v1234567v8v18v28v128v38v138",
    "v238v1238v48v148v248v1248v348v1348v2348v12348v58v158v258v1258v358v1358v2358v12358v458v1458",
    "v2458v12458v3458v13458v23458v123458v68v168v268v1268v368v1368v2368v12368v468v1468v2468v12468",
    "v3468v13468v23468v123468v568v1568v2568v12568v3568v13568v23568v123568v4568v14568v24568v124568",
    "v34568v134568v234568v1234568v78v178v278v1278v378v1378v2378v12378v478v1478v2478v12478v3478",
    "v13478v23478v123478v578v1578v2578v12578v3578v13578v23578v123578v4578v14578v24578v124578v34578",
    "v134578v234578v1234578v678v1678v2678v12678v3678v13678v23678v123678v4678v14678v24678v124678",
    "v34678v134678v234678v1234678v5678v15678v25678v125678v35678v135678v235678v1235678v45678v145678",
    "v245678v1245678v345678v1345678v2345678v12345678",
    "aRIGHTWARDS TWO-HEADED ARROW WITH VERTICAL STROKEbhDOUBLE VERTICAL STROKE",
    "aLEFTWARDS DOUBLE ARROW WITH VERTICAL STROKEaRIGHTWARDS DOUBLE ARROW WITH VERTICAL STROKE",
    "aLEFT RIGHT DOUBLE ARROW WITH VERTICAL STROKEaRIGHTWARDS TWO-HEADED ARROW FROM BAR",
    "aLEFTWARDS DOUBLE ARROW FROM BARaRIGHTWARDS DOUBLE ARROW FROM BAR",
    "aDOWNWARDS ARROW WITH HORIZONTAL STROKEaUPWARDS ARROW WITH HORIZONTAL STROKEiTRIPLE ARROW",
    "aDOWNWARDS TRIPLE ARROWaLEFTWARDS DOUBLE DASH ARROWaRIGHTWARDS DOUBLE DASH ARROW",
    "aLEFTWARDS TRIPLE DASH ARROWaRIGHTWARDS TRIPLE DASH ARROWmWO-HEADED TRIPLE DASH ARROW",
    "lARROW WITH DOTTED STEMaUPWARDS ARROW TO BARaDOWNWARDS ARROW TO BAR",
    "aRIGHTWARDS ARROW WITH TAIL WITH VERTICAL STROKEbgDOUBLE VERTICAL STROKE",
    "lTWO-HEADED ARROW WITH TAILbl WITH VERTICAL STROKEbrDOUBLE VERTICAL STROKE",
    "aLEFTWARDS ARROW-TAILaRIGHTWARDS ARROW-TAILaLEFTWARDS DOUBLE ARROW-TAIL",
    "aRIGHTWARDS DOUBLE ARROW-TAILaLEFTWARDS ARROW TO BLACK DIAMOND",
    "aRIGHTWARDS ARROW TO BLACK DIAMONDaLEFTWARDS ARROW FROM BAR TO BLACK DIAMOND",
    "aRIGHTWARDS ARROW FROM BAR TO BLACK DIAMONDaNORTH WEST AND SOUTH EAST ARROW",
    "gEAST AND SOUTH WEST ARROWgWEST ARROW WITH HOOKgEAST ARROW WITH HOOK",
    "aSOUTH EAST ARROW WITH HOOKgWEST ARROW WITH HOOKaNORTH WEST ARROW AND NORTH EAST ARROW",
    "gEAST ARROW AND SOUTH EAST ARROWaSOUTH EAST ARROW AND SOUTH WEST ARROW",
    "gWEST ARROW AND NORTH WEST ARROWaRISING DIAGONAL CROSSING FALLING DIAGONAL",
    "aFALLING DIAGONAL CROSSING RISING DIAGONALaSOUTH EAST ARROW CROSSING NORTH EAST ARROW",
    "aNORTH EAST ARROW CROSSING SOUTH EAST ARROWaFALLING DIAGONAL CROSSING NORTH EAST ARROW",
    "aRISING DIAGONAL CROSSING SOUTH EAST ARROWaNORTH EAST ARROW CROSSING NORTH WEST ARROW",
    "gWEST ARROW CROSSING NORTH EAST ARROWaWAVE ARROW POINTING DIRECTLY RIGHT",
    "aARROW POINTING RIGHTWARDS THEN CURVING UPWARDSbnDOWNWARDSpDOWNWARDS THEN CURVING LEFTWARDS",
    "bmRIGHTWARDSaRIGHT-SIDE ARC CLOCKWISE ARROWaLEFT-SIDE ARC ANTICLOCKWISE ARROW",
    "aTOP ARC ANTICLOCKWISE ARROWaBOTTOM ARC ANTICLOCKWISE ARROW",
    "aTOP ARC CLOCKWISE ARROW WITH MINUSiANTICLOCKWISE ARROW WITH PLUS",
    "aLOWER RIGHT SEMICIRCULAR CLOCKWISE ARROWgLEFT SEMICIRCULAR ANTICLOCKWISE ARROW",
    "aANTICLOCKWISE CLOSED CIRCLE ARROWaCLOCKWISE CLOSED CIRCLE ARROW",
    "aRIGHTWARDS ARROW ABOVE SHORT LEFTWARDS ARROWaLEFTWARDS ARROW ABOVE SHORT RIGHTWARDS ARROW",
    "aSHORT RIGHTWARDS ARROW ABOVE LEFTWARDS ARROWaRIGHTWARDS ARROW WITH PLUS BELOW",
    "aLEFTWARDS ARROW WITH PLUS BELOWaRIGHTWARDS ARROW THROUGH X",
    "aLEFT RIGHT ARROW THROUGH SMALL CIRCLEaUPWARDS TWO-HEADED ARROW FROM SMALL CIRCLE",
    "aLEFT BARB UP RIGHT BARB DOWN HARPOONkDOWN RIGHT BARB UP HARPOON",
    "aUP BARB RIGHT DOWN BARB LEFT HARPOONiLEFT DOWN BARB RIGHT HARPOON",
    "aLEFT BARB UP RIGHT BARB UP HARPOONaUP BARB RIGHT DOWN BARB RIGHT HARPOON",
    "aLEFT BARB DOWN RIGHT BARB DOWN HARPOONaUP BARB LEFT DOWN BARB LEFT HARPOON",
    "aLEFTWARDS HARPOON WITH BARB UP TO BARaRIGHTWARDS HARPOON WITH BARB UP TO BAR",
    "aUPWARDS HARPOON WITH BARB RIGHT TO BARaDOWNWARDS HARPOON WITH BARB RIGHT TO BAR",
    "aLEFTWARDS HARPOON WITH BARB DOWN TO BARaRIGHTWARDS HARPOON WITH BARB DOWN TO BAR",
    "aUPWARDS HARPOON WITH BARB LEFT TO BARaDOWNWARDS HARPOON WITH BARB LEFT TO BAR",
    "aLEFTWARDS HARPOON WITH BARB UP FROM BARaRIGHTWARDS HARPOON WITH BARB UP FROM BAR",
    "aUPWARDS HARPOON WITH BARB RIGHT FROM BARaDOWNWARDS HARPOON WITH BARB RIGHT FROM BAR",
    "aLEFTWARDS HARPOON WITH BARB DOWN FROM BARaRIGHTWARDS HARPOON WITH BARB DOWN FROM BAR",
    "aUPWARDS HARPOON WITH BARB LEFT FROM BARaDOWNWARDS HARPOON WITH BARB LEFT FROM BAR",
    "aLEFTWARDS HARPOON WITH BARB UP ABOVE LEFTWARDS HARPOON WITH BARB DOWN",
    "aUPWARDS HARPOON WITH BARB LEFT BESIDE UPWARDS HARPOON WITH BARB RIGHT",
    "aRIGHTWARDS HARPOON WITH BARB UP ABOVE RIGHTWARDS HARPOON WITH BARB DOWN",
    "aDOWNWARDS HARPOON WITH BARB LEFT BESIDE DOWNWARDS HARPOON WITH BARB RIGHT",
    "aLEFTWARDS HARPOON WITH BARB UP ABOVE RIGHTWARDS HARPOON WITH BARB UP",
    "bcDOWN ABOVE RIGHTWARDS HARPOON WITH BARB DOWN",
    "aRIGHTWARDS HARPOON WITH BARB UP ABOVE LEFTWARDS HARPOON WITH BARB UP",
    "bdDOWN ABOVE LEFTWARDS HARPOON WITH BARB DOWNaLEFTWARDS HARPOON WITH BARB UP ABOVE LONG DASH",
    "bcDOWN BELOW LONG DASHaRIGHTWARDS HARPOON WITH BARB UP ABOVE LONG DASHbdDOWN BELOW LONG DASH",
    "aUPWARDS HARPOON WITH BARB LEFT BESIDE DOWNWARDS HARPOON WITH BARB RIGHT",
    "aDOWNWARDS HARPOON WITH BARB LEFT BESIDE UPWARDS HARPOON WITH BARB RIGHT",
    "aRIGHT DOUBLE ARROW WITH ROUNDED HEADaEQUALS SIGN ABOVE RIGHTWARDS ARROW",
    "aTILDE OPERATOR ABOVE RIGHTWARDS ARROWaLEFTWARDS ARROW ABOVE TILDE OPERATOR",
    "aRIGHTWARDS ARROW ABOVE TILDE OPERATORxALMOST EQUAL TOaLESS-THAN ABOVE LEFTWARDS ARROW",
    "cFTWARDS ARROW THROUGH LESS-THANaGREATER-THAN ABOVE RIGHTWARDS ARROW",
    "aSUBSET ABOVE RIGHTWARDS ARROWaLEFTWARDS ARROW THROUGH SUBSETaSUPERSET ABOVE LEFTWARDS ARROW",
    "aLEFT FISH TAILaRIGHT FISH TAILaUP FISH TAILaDOWN FISH TAILaTRIPLE VERTICAL BAR DELIMITER",
    "aZ NOTATION SPOTlTYPE COLONaLEFT WHITE CURLY BRACKETaRIGHT WHITE CURLY BRACKET",
    "aLEFT WHITE PARENTHESISaRIGHT WHITE PARENTHESISaZ NOTATION LEFT IMAGE BRACKET",
    "lRIGHT IMAGE BRACKETlLEFT BINDING BRACKETlRIGHT BINDING BRACKET",
    "aLEFT SQUARE BRACKET WITH UNDERBARaRIGHT SQUARE BRACKET WITH UNDERBAR",
    "aLEFT SQUARE BRACKET WITH TICK IN TOP CORNERaRIGHT SQUARE BRACKET WITH TICK IN BOTTOM CORNER",
    "aLEFT SQUARE BRACKET WITH TICK IN BOTTOM CORNERaRIGHT SQUARE BRACKET WITH TICK IN TOP CORNER",
    "aLEFT ANGLE BRACKET WITH DOTaRIGHT ANGLE BRACKET WITH DOTaLEFT ARC LESS-THAN BRACKET",
    "aRIGHT ARC GREATER-THAN BRACKETaDOUBLE LEFT ARC GREATER-THAN BRACKET",
    "hRIGHT ARC LESS-THAN BRACKETaLEFT BLACK TORTOISE SHELL BRACKET",
    "aRIGHT BLACK TORTOISE SHELL BRACKETaDOTTED FENCEaVERTICAL ZIGZAG LINE",
    "aMEASURED ANGLE OPENING LEFTaRIGHT ANGLE VARIANT WITH SQUAREaMEASURED RIGHT ANGLE WITH DOT",
    "aANGLE WITH S INSIDEbCUTE ANGLEaSPHERICAL ANGLE OPENING LEFTyUPaTURNED ANGLEaREVERSED ANGLE",
    "aANGLE WITH UNDERBARaREVERSED ANGLE WITH UNDERBARaOBLIQUE ANGLE OPENING UPwDOWN",
    "aMEASURED ANGLE WITH OPEN ARM ENDING IN ARROW POINTING UP AND RIGHTcjLEFTccDOWN AND RIGHT",
    "clLEFTccRIGHT AND UPccLEFT AND UPccRIGHT AND DOWNccLEFT AND DOWNaREVERSED EMPTY SET",
    "aEMPTY SET WITH OVERBARpSMALL CIRCLE ABOVEpRIGHT ARROW ABOVEpLEFT ARROW ABOVE",
    "aCIRCLE WITH HORIZONTAL BARgD VERTICAL BARiPARALLELiREVERSE SOLIDUSiPERPENDICULAR",
    "g DIVIDED BY HORIZONTAL BAR AND TOP HALF DIVIDED BY VERTICAL BARhWITH SUPERIMPOSED X",
    "gD ANTICLOCKWISE-ROTATED DIVISION SIGNaUP ARROW THROUGH CIRCLEaCIRCLED WHITE BULLETiBULLET",
    "iLESS-THANiGREATER-THANg WITH SMALL CIRCLE TO THE RIGHTmTWO HORIZONTAL STROKES TO THE RIGHT",
    "aSQUARED RISING DIAGONAL SLASHiFALLING DIAGONAL SLASHiASTERISKiSMALL CIRCLEjQUARE",
    "aTWO JOINED SQUARESbRIANGLE WITH DOT ABOVEoUNDERBARaS IN TRIANGLE",
    "aTRIANGLE WITH SERIFS AT BOTTOMaRIGHT TRIANGLE ABOVE LEFT TRIANGLE",
    "aLEFT TRIANGLE BESIDE VERTICAL BARaVERTICAL BAR BESIDE RIGHT TRIANGLE",
    "aBOWTIE WITH LEFT HALF BLACKmRIGHT HALF BLACKbLACK BOWTIEaTIMES WITH LEFT HALF BLACK",
    "lRIGHT HALF BLACKaWHITE HOURGLASSaBLACK HOURGLASSaLEFT WIGGLY FENCEaRIGHT WIGGLY FENCE",
    "aLEFT DOUBLE WIGGLY FENCEaRIGHT DOUBLE WIGGLY FENCEaINCOMPLETE INFINITYaTIE OVER INFINITY",
    "aINFINITY NEGATED WITH VERTICAL BARaDOUBLE-ENDED MULTIMAPaSQUARE WITH CONTOURED OUTLINE",
    "aINCREASES ASaSHUFFLE PRODUCTaEQUALS SIGN AND SLANTED PARALLELbg WITH TILDE ABOVE",
    "aIDENTICAL TO AND SLANTED PARALLELaGLEICH STARKaTHERMODYNAMIC",
    "aDOWN-POINTING TRIANGLE WITH LEFT HALF BLACKbcRIGHT HALF BLACKaBLACK DIAMOND WITH DOWN ARROW",
    "gLOZENGEaWHITE CIRCLE WITH DOWN ARROWaBLACK CIRCLE WITH DOWN ARROWaERROR-BARRED WHITE SQUARE",
    "nBLACK SQUAREnWHITE DIAMONDnBLACK DIAMONDnWHITE CIRCLEnBLACK CIRCLEaRULE-DELAYED",
    "bEVERSE SOLIDUS OPERATORaSOLIDUS WITH OVERBARaREVERSE SOLIDUS WITH HORIZONTAL STROKE",
    "aBIG SOLIDUSeREVERSE SOLIDUSaDOUBLE PLUSaTRIPLE PLUSaLEFT-POINTING CURVED ANGLE BRACKET",
    "aRIGHT-POINTING CURVED ANGLE BRACKETaTINYaMINYaN-ARY CIRCLED DOT OPERATORoPLUS OPERATOR",
    "oTIMES OPERATORgUNION OPERATOR WITH DOTbaPLUSgSQUARE INTERSECTION OPERATORnUNION OPERATOR",
    "aTWO LOGICAL AND OPERATORmOR OPERATORaN-ARY TIMES OPERATORaMODULO TWO SUM",
    "aSUMMATION WITH INTEGRALaQUADRUPLE INTEGRAL OPERATORaFINITE PART INTEGRAL",
    "aINTEGRAL WITH DOUBLE STROKEjAVERAGE WITH SLASHaCIRCULATION FUNCTION",
    "aANTICLOCKWISE INTEGRATIONaLINE INTEGRATION WITH RECTANGULAR PATH AROUND POLE",
    "wSEMICIRCULAR PATH AROUND POLErNOT INCLUDING THE POLEaINTEGRAL AROUND A POINT OPERATOR",
    "aQUATERNION INTEGRAL OPERATORaINTEGRAL WITH LEFTWARDS ARROW WITH HOOKoTIMES SIGNoINTERSECTION",
    "oUNIONoOVERBARoUNDERBARaJOINaLARGE LEFT TRIANGLE OPERATORaZ NOTATION SCHEMA COMPOSITION",
    "sPIPINGtROJECTIONaPLUS SIGN WITH SMALL CIRCLE ABOVEpCIRCUMFLEX ACCENT ABOVEpTILDE ABOVE",
    "pDOT BELOWpTILDE BELOWpSUBSCRIPT TWOpBLACK TRIANGLEaMINUS SIGN WITH COMMA ABOVEqDOT BELOW",
    "qFALLING DOTSqRISING DOTSaPLUS SIGN IN LEFT HALF CIRCLEnRIGHT HALF CIRCLE",
    "aVECTOR OR CROSS PRODUCTaMULTIPLICATION SIGN WITH DOT ABOVEzUNDERBAR",
    "aSEMIDIRECT PRODUCT WITH BOTTOM CLOSEDbMASH PRODUCTaMULTIPLICATION SIGN IN LEFT HALF CIRCLE",
    "xRIGHT HALF CIRCLEaCIRCLED MULTIPLICATION SIGN WITH CIRCUMFLEX ACCENT",
    "aMULTIPLICATION SIGN IN DOUBLE CIRCLEaCIRCLED DIVISION SIGNaPLUS SIGN IN TRIANGLE",
    "aMINUS SIGN IN TRIANGLEbULTIPLICATION SIGN IN TRIANGLEaINTERIOR PRODUCT",
    "aRIGHTHAND INTERIOR PRODUCTaZ NOTATION RELATIONAL COMPOSITIONaAMALGAMATION OR COPRODUCT",
    "aINTERSECTION WITH DOTaUNION WITH MINUS SIGNlOVERBARaINTERSECTION WITH OVERBARsLOGICAL AND",
    "aUNION WITH LOGICAL ORgABOVE INTERSECTIONaINTERSECTION ABOVE UNION",
    "aUNION ABOVE BAR ABOVE INTERSECTIONaINTERSECTION ABOVE BAR ABOVE UNION",
    "aUNION BESIDE AND JOINED WITH UNIONaINTERSECTION BESIDE AND JOINED WITH INTERSECTION",
    "aCLOSED UNION WITH SERIFShINTERSECTION WITH SERIFSaDOUBLE SQUARE INTERSECTIONoUNION",
    "aCLOSED UNION WITH SERIFS AND SMASH PRODUCTaLOGICAL AND WITH DOT ABOVEiOR WITH DOT ABOVE",
    "aDOUBLE LOGICAL ANDpORaTWO INTERSECTING LOGICAL ANDzORaSLOPING LARGE ORoAND",
    "aLOGICAL OR OVERLAPPING LOGICAL ANDiAND WITH MIDDLE STEMiOR WITH MIDDLE STEM",
    "iAND WITH HORIZONTAL DASHiOR WITH HORIZONTAL DASHiAND WITH DOUBLE OVERBARrUNDERBAR",
    "rDOUBLE UNDERBARaSMALL VEE WITH UNDERBARaLOGICAL OR WITH DOUBLE OVERBARxUNDERBAR",
    "aZ NOTATION DOMAIN ANTIRESTRICTIONlRANGE ANTIRESTRICTIONaEQUALS SIGN WITH DOT BELOW",
    "aIDENTICAL WITH DOT ABOVEaTRIPLE HORIZONTAL BAR WITH DOUBLE VERTICAL STROKE",
    "bbTRIPLE VERTICAL STROKEbILDE OPERATOR WITH DOT ABOVEuRISING DOTSaSIMILAR MINUS SIMILAR",
    "aCONGRUENT WITH DOT ABOVEaEQUALS WITH ASTERISKaALMOST EQUAL TO WITH CIRCUMFLEX ACCENT",
    "bPPROXIMATELY EQUAL OR EQUAL TOaEQUALS SIGN ABOVE PLUS SIGNaPLUS SIGN ABOVE EQUALS SIGN",
    "aEQUALS SIGN ABOVE TILDE OPERATORaDOUBLE COLON EQUALaTWO CONSECUTIVE EQUALS SIGNS",
    "bHREE CONSECUTIVE EQUALS SIGNSaEQUALS SIGN WITH TWO DOTS ABOVE AND TWO DOTS BELOW",
    "dIVALENT WITH FOUR DOTS ABOVEaLESS-THAN WITH CIRCLE INSIDEaGREATER-THAN WITH CIRCLE INSIDE",
    "aLESS-THAN WITH QUESTION MARK ABOVEaGREATER-THAN WITH QUESTION MARK ABOVE",
    "aLESS-THAN OR SLANTED EQUAL TOaGREATER-THAN OR SLANTED EQUAL TO",
    "aLESS-THAN OR SLANTED EQUAL TO WITH DOT INSIDE",
    "aGREATER-THAN OR SLANTED EQUAL TO WITH DOT INSIDE",
    "aLESS-THAN OR SLANTED EQUAL TO WITH DOT ABOVEaGREATER-THAN OR SLANTED EQUAL TO WITH DOT ABOVE",
    "aLESS-THAN OR SLANTED EQUAL TO WITH DOT ABOVE RIGHT",
    "aGREATER-THAN OR SLANTED EQUAL TO WITH DOT ABOVE LEFTaLESS-THAN OR APPROXIMATE",
    "aGREATER-THAN OR APPROXIMATEaLESS-THAN AND SINGLE-LINE NOT EQUAL TO",
    "aGREATER-THAN AND SINGLE-LINE NOT EQUAL TOaLESS-THAN AND NOT APPROXIMATE",
    "aGREATER-THAN AND NOT APPROXIMATEaLESS-THAN ABOVE DOUBLE-LINE EQUAL ABOVE GREATER-THAN",
    "aGREATER-THAN ABOVE DOUBLE-LINE EQUAL ABOVE LESS-THANaLESS-THAN ABOVE SIMILAR OR EQUAL",
    "aGREATER-THAN ABOVE SIMILAR OR EQUALaLESS-THAN ABOVE SIMILAR ABOVE GREATER-THAN",
    "aGREATER-THAN ABOVE SIMILAR ABOVE LESS-THAN",
    "aLESS-THAN ABOVE GREATER-THAN ABOVE DOUBLE-LINE EQUAL",
    "aGREATER-THAN ABOVE LESS-THAN ABOVE DOUBLE-LINE EQUAL",
    "aLESS-THAN ABOVE SLANTED EQUAL ABOVE GREATER-THAN ABOVE SLANTED EQUAL",
    "aGREATER-THAN ABOVE SLANTED EQUAL ABOVE LESS-THAN ABOVE SLANTED EQUAL",
    "aSLANTED EQUAL TO OR LESS-THANuGREATER-THANuLESS-THAN WITH DOT INSIDE",
    "uGREATER-THAN WITH DOT INSIDEaDOUBLE-LINE EQUAL TO OR LESS-THANyGREATER-THAN",
    "mSLANTED EQUAL TO OR LESS-THANbgGREATER-THANaSIMILAR OR LESS-THANlGREATER-THAN",
    "iABOVE LESS-THAN ABOVE EQUALS SIGNoGREATER-THAN ABOVE EQUALS SIGNaDOUBLE NESTED LESS-THAN",
    "oGREATER-THANoLESS-THAN WITH UNDERBARaGREATER-THAN OVERLAPPING LESS-THANnBESIDE LESS-THAN",
    "aLESS-THAN CLOSED BY CURVEaGREATER-THAN CLOSED BY CURVE",
    "aLESS-THAN CLOSED BY CURVE ABOVE SLANTED EQUAL",
    "aGREATER-THAN CLOSED BY CURVE ABOVE SLANTED EQUALaSMALLER THANaLARGER THAN",
    "aSMALLER THAN OR EQUAL TOaLARGER THAN OR EQUAL TOaEQUALS SIGN WITH BUMPY ABOVE",
    "aPRECEDES ABOVE SINGLE-LINE EQUALS SIGNaSUCCEEDS ABOVE SINGLE-LINE EQUALS SIGN",
    "aPRECEDES ABOVE SINGLE-LINE NOT EQUAL TOaSUCCEEDS ABOVE SINGLE-LINE NOT EQUAL TO",
    "aPRECEDES ABOVE EQUALS SIGNaSUCCEEDS ABOVE EQUALS SIGNaPRECEDES ABOVE NOT EQUAL TO",
    "aSUCCEEDS ABOVE NOT EQUAL TOaPRECEDES ABOVE ALMOST EQUAL TOaSUCCEEDS ABOVE ALMOST EQUAL TO",
    "aPRECEDES ABOVE NOT ALMOST EQUAL TOaSUCCEEDS ABOVE NOT ALMOST EQUAL TOaDOUBLE PRECEDES",
    "hSUCCEEDSaSUBSET WITH DOTcPERSET WITH DOTcBSET WITH PLUS SIGN BELOW",
    "cPERSET WITH PLUS SIGN BELOWcBSET WITH MULTIPLICATION SIGN BELOW",
    "cPERSET WITH MULTIPLICATION SIGN BELOWcBSET OF OR EQUAL TO WITH DOT ABOVE",
    "cPERSET OF OR EQUAL TO WITH DOT ABOVEcBSET OF ABOVE EQUALS SIGNcPERSET OF ABOVE EQUALS SIGN",
    "cBSET OF ABOVE TILDE OPERATORcPERSET OF ABOVE TILDE OPERATORcBSET OF ABOVE ALMOST EQUAL TO",
    "cPERSET OF ABOVE ALMOST EQUAL TOcBSET OF ABOVE NOT EQUAL TOcPERSET OF ABOVE NOT EQUAL TO",
    "bQUARE LEFT OPEN BOX OPERATORhRIGHT OPEN BOX OPERATORaCLOSED SUBSETjPERSETjBSET OR EQUAL TO",
    "jPERSET OR EQUAL TOaSUBSET ABOVE SUPERSETcPERSET ABOVE SUBSETcBSET ABOVE SUBSET",
    "cPERSET ABOVE SUPERSETjBESIDE SUBSETqAND JOINED BY DASH WITH SUBSET",
    "aELEMENT OF OPENING DOWNWARDSaPITCHFORK WITH TEE TOPaTRANSVERSAL INTERSECTIONaFORKING",
    "aNONFORKINGaSHORT LEFT TACKgDOWN TACKgUP TACKaPERPENDICULAR WITH S",
    "aVERTICAL BAR TRIPLE RIGHT TURNSTILEaDOUBLE VERTICAL BAR LEFT TURNSTILE",
    "aVERTICAL BAR DOUBLE LEFT TURNSTILEaDOUBLE VERTICAL BAR DOUBLE LEFT TURNSTILE",
    "aLONG DASH FROM LEFT MEMBER OF DOUBLE VERTICALaSHORT DOWN TACK WITH OVERBAR",
    "gUP TACK WITH UNDERBARoABOVE SHORT DOWN TACKaDOUBLE DOWN TACKhUP TACKhSTROKE NOT SIGN",
    "aREVERSED DOUBLE STROKE NOT SIGNaDOES NOT DIVIDE WITH REVERSED NEGATION SLASH",
    "aVERTICAL LINE WITH CIRCLE ABOVEbaBELOWaDOWN TACK WITH CIRCLE BELOW",
    "aPARALLEL WITH HORIZONTAL STROKEoTILDE OPERATORaTRIPLE VERTICAL BAR BINARY RELATION",
    "uWITH HORIZONTAL STROKEhCOLON OPERATORhNESTED LESS-THANoGREATER-THAN",
    "aDOUBLE-LINE SLANTED LESS-THAN OR EQUAL TOuGREATER-THAN OR EQUAL TO",
    "aTRIPLE SOLIDUS BINARY RELATIONaLARGE TRIPLE VERTICAL BAR OPERATORaDOUBLE SOLIDUS OPERATOR",
    "aWHITE VERTICAL BARaN-ARY WHITE VERTICAL BARbORTH EAST WHITE ARROWgWEST WHITE ARROW",
    "aSOUTH EAST WHITE ARROWgWEST WHITE ARROWaLEFT RIGHT WHITE ARROWeWARDS BLACK ARROW",
    "aUPWARDS BLACK ARROWaDOWNWARDS BLACK ARROWaNORTH EAST BLACK ARROWgWEST BLACK ARROW",
    "aSOUTH EAST BLACK ARROWgWEST BLACK ARROWaLEFT RIGHT BLACK ARROWaUP DOWN BLACK ARROW",
    "aRIGHTWARDS ARROW WITH TIP DOWNWARDSbaUPWARDSaLEFTWARDS ARROW WITH TIP DOWNWARDSzUPWARDS",
    "aSQUARE WITH TOP HALF BLACKmBOTTOM HALF BLACKmUPPER RIGHT DIAGONAL HALF BLACK",
    "mLOWER LEFT DIAGONAL HALF BLACKaDIAMOND WITH LEFT HALF BLACKnRIGHT HALF BLACKnTOP HALF BLACK",
    "nBOTTOM HALF BLACKbOTTED SQUAREaBLACK LARGE SQUAREaWHITE LARGE SQUAREaBLACK VERY SMALL SQUARE",
    "aWHITE VERY SMALL SQUAREaBLACK PENTAGONaWHITE PENTAGONgHEXAGONaBLACK HEXAGON",
    "aHORIZONTAL BLACK HEXAGONaBLACK LARGE CIRCLEgMEDIUM DIAMONDaWHITE MEDIUM DIAMOND",
    "aBLACK MEDIUM LOZENGEaWHITE MEDIUM LOZENGEaBLACK SMALL DIAMONDmLOZENGEaWHITE SMALL LOZENGE",
    "aBLACK HORIZONTAL ELLIPSEaWHITE HORIZONTAL ELLIPSEaBLACK VERTICAL ELLIPSE",
    "aWHITE VERTICAL ELLIPSEaLEFT ARROW WITH SMALL CIRCLEaTHREE LEFTWARDS ARROWS",
    "aLEFT ARROW WITH CIRCLED PLUSbONG LEFTWARDS SQUIGGLE ARROW",
    "bEFTWARDS TWO-HEADED ARROW WITH VERTICAL STROKEbgDOUBLE VERTICAL STROKEbbFROM BAR",
    "vTRIPLE DASH ARROWkARROW WITH DOTTED STEMvTAIL WITH VERTICAL STROKEbfDOUBLE VERTICAL STROKE",
    "kTWO-HEADED ARROW WITH TAILbk WITH VERTICAL STROKEbqDOUBLE VERTICAL STROKEkARROW THROUGH X",
    "aWAVE ARROW POINTING DIRECTLY LEFTaEQUALS SIGN ABOVE LEFTWARDS ARROW",
    "aREVERSE TILDE OPERATOR ABOVE LEFTWARDS ARROWaLEFTWARDS ARROW ABOVE REVERSE ALMOST EQUAL TO",
    "aRIGHTWARDS ARROW THROUGH GREATER-THANzSUPERSETaLEFTWARDS QUADRUPLE ARROW",
    "aRIGHTWARDS QUADRUPLE ARROWbEVERSE TILDE OPERATOR ABOVE RIGHTWARDS ARROW",
    "bIGHTWARDS ARROW ABOVE REVERSE ALMOST EQUAL TOaTILDE OPERATOR ABOVE LEFTWARDS ARROW",
    "aLEFTWARDS ARROW ABOVE ALMOST EQUAL TOwREVERSE TILDE OPERATOR",
    "aRIGHTWARDS ARROW ABOVE REVERSE TILDE OPERATORaDOWNWARDS TRIANGLE-HEADED ZIGZAG ARROW",
    "aSHORT SLANTED NORTH ARROWgBACKSLANTED SOUTH ARROWaWHITE MEDIUM STARaBLACK SMALL STAR",
    "aWHITE SMALL STARaBLACK RIGHT-POINTING PENTAGONaWHITE RIGHT-POINTING PENTAGON",
    "aHEAVY LARGE CIRCLEgOVAL WITH OVAL INSIDEgCIRCLE WITH CIRCLE INSIDEm+1mD SALTIRE",
    "aSLANTED NORTH ARROW WITH HOOKED HEADaBACKSLANTED SOUTH ARROW WITH HOOKED TAIL",
    "aSLANTED NORTH ARROW WITH HORIZONTAL TAILaBACKSLANTED SOUTH ARROW WITH HORIZONTAL TAIL",
    "bENT ARROW POINTING DOWNWARDS THEN NORTH EAST",
    "aSHORT BENT ARROW POINTING DOWNWARDS THEN NORTH EASTaLEFTWARDS TRIANGLE-HEADED ARROW",
    "aUPWARDS TRIANGLE-HEADED ARROWaRIGHTWARDS TRIANGLE-HEADED ARROW",
    "aDOWNWARDS TRIANGLE-HEADED ARROWaLEFT RIGHT TRIANGLE-HEADED ARROW",
    "aUP DOWN TRIANGLE-HEADED ARROWaNORTH WEST TRIANGLE-HEADED ARROWgEAST TRIANGLE-HEADED ARROW",
    "aSOUTH EAST TRIANGLE-HEADED ARROWgWEST TRIANGLE-HEADED ARROW",
    "aLEFTWARDS TRIANGLE-HEADED DASHED ARROWaUPWARDS TRIANGLE-HEADED DASHED ARROW",
    "aRIGHTWARDS TRIANGLE-HEADED DASHED ARROWaDOWNWARDS TRIANGLE-HEADED DASHED ARROW",
    "aCLOCKWISE TRIANGLE-HEADED OPEN CIRCLE ARROWaANTICLOCKWISE TRIANGLE-HEADED OPEN CIRCLE ARROW",
    "aLEFTWARDS TRIANGLE-HEADED ARROW TO BARaUPWARDS TRIANGLE-HEADED ARROW TO BAR",
    "aRIGHTWARDS TRIANGLE-HEADED ARROW TO BARaDOWNWARDS TRIANGLE-HEADED ARROW TO BAR",
    "+3aNORTH WEST TRIANGLE-HEADED ARROW TO BARgEAST TRIANGLE-HEADED ARROW TO BAR",
    "aSOUTH EAST TRIANGLE-HEADED ARROW TO BARgWEST TRIANGLE-HEADED ARROW TO BAR",
    "aLEFTWARDS TRIANGLE-HEADED ARROW WITH DOUBLE HORIZONTAL STROKE+0bsVERTICAL STROKE",
    "aUPWARDS TRIANGLE-HEADED ARROW WITH DOUBLE HORIZONTAL STROKE",
    "aRIGHTWARDS TRIANGLE-HEADED ARROW WITH DOUBLE HORIZONTAL STROKE+0btVERTICAL STROKE",
    "aDOWNWARDS TRIANGLE-HEADED ARROW WITH DOUBLE HORIZONTAL STROKEaHORIZONTAL TAB KEY",
    "aVERTICAL TAB KEYaLEFTWARDS TRIANGLE-HEADED ARROW OVER RIGHTWARDS TRIANGLE-HEADED ARROW",
    "aUPWARDS TRIANGLE-HEADED ARROW LEFTWARDS OF DOWNWARDS TRIANGLE-HEADED ARROW",
    "aRIGHTWARDS TRIANGLE-HEADED ARROW OVER LEFTWARDS TRIANGLE-HEADED ARROW",
    "aDOWNWARDS TRIANGLE-HEADED ARROW LEFTWARDS OF UPWARDS TRIANGLE-HEADED ARROW",
    "aLEFTWARDS TRIANGLE-HEADED PAIRED ARROWSaUPWARDS TRIANGLE-HEADED PAIRED ARROWS",
    "aRIGHTWARDS TRIANGLE-HEADED PAIRED ARROWSaDOWNWARDS TRIANGLE-HEADED PAIRED ARROWS",
    "aLEFTWARDS BLACK CIRCLED WHITE ARROWaUPWARDS BLACK CIRCLED WHITE ARROW",
    "aRIGHTWARDS BLACK CIRCLED WHITE ARROWaDOWNWARDS BLACK CIRCLED WHITE ARROW",
    "aANTICLOCKWISE TRIANGLE-HEADED RIGHT U-SHAPED ARROWbeBOTTOM U-SHAPED ARROW",
    "beLEFT U-SHAPED ARROWbeTOP U-SHAPED ARROWaRETURN LEFThRIGHTaNEWLINE LEFTiRIGHT",
    "aFOUR CORNER ARROWS CIRCLING ANTICLOCKWISEaRIGHTWARDS BLACK ARROW",
    "+2aSYMBOL FOR TYPE A ELECTRONICSaTHREE-D TOP-LIGHTED LEFTWARDS EQUILATERAL ARROWHEAD",
    "iRIGHT-LIGHTED UPWARDS EQUILATERAL ARROWHEADiTOP-LIGHTED RIGHTWARDS EQUILATERAL ARROWHEAD",
    "iLEFT-LIGHTED DOWNWARDS EQUILATERAL ARROWHEADaBLACK LEFTWARDS EQUILATERAL ARROWHEAD",
    "gUPWARDS EQUILATERAL ARROWHEADgRIGHTWARDS EQUILATERAL ARROWHEAD",
    "gDOWNWARDS EQUILATERAL ARROWHEADaDOWNWARDS TRIANGLE-HEADED ARROW WITH LONG TIP LEFTWARDS",
    "buRIGHTWARDSaUPWARDS TRIANGLE-HEADED ARROW WITH LONG TIP LEFTWARDSbsRIGHTWARDS",
    "aLEFTWARDS TRIANGLE-HEADED ARROW WITH LONG TIP UPWARDS",
    "aRIGHTWARDS TRIANGLE-HEADED ARROW WITH LONG TIP UPWARDS",
    "aLEFTWARDS TRIANGLE-HEADED ARROW WITH LONG TIP DOWNWARDS",
    "aRIGHTWARDS TRIANGLE-HEADED ARROW WITH LONG TIP DOWNWARDS",
    "aBLACK CURVED DOWNWARDS AND LEFTWARDS ARROWbbRIGHTWARDS ARROWnUPWARDS AND LEFTWARDS ARROW",
    "zRIGHTWARDS ARROWnLEFTWARDS AND UPWARDS ARROWnRIGHTWARDS AND UPWARDS ARROW",
    "nLEFTWARDS AND DOWNWARDS ARROWnRIGHTWARDS AND DOWNWARDS ARROWaRIBBON ARROW DOWN LEFTsRIGHT",
    "nUP LEFTqRIGHTnLEFT UPnRIGHT UPnLEFT DOWNnRIGHT DOWN",
    "aUPWARDS WHITE ARROW FROM BAR WITH HORIZONTAL BARc ARROWHEAD IN A RECTANGLE BOX",
    "aOVERLAPPING WHITE SQUARESsAND BLACK SQUARESmBLACK SQUARESaBALLOT BOX WITH LIGHT XaCIRCLED X",
    "iBOLD XaBLACK SQUARE CENTREDgDIAMOND CENTREDaTURNED BLACK PENTAGONaHORIZONTAL BLACK OCTAGON",
    "aBLACK OCTAGONgMEDIUM UP-POINTING TRIANGLE CENTREDnDOWN-POINTING TRIANGLE CENTRED",
    "nLEFT-POINTING TRIANGLE CENTREDnRIGHT-POINTING TRIANGLE CENTREDaNEPTUNE FORM TWO",
    "aTOP HALF BLACK CIRCLEaBOTTOM HALF BLACK CIRCLEaLIGHT FOUR POINTED BLACK CUSP",
    "aROTATED LIGHT FOUR POINTED BLACK CUSPaWHITE FOUR POINTED CUSP",
    "aROTATED WHITE FOUR POINTED CUSPaSQUARE POSITION INDICATORaUNCERTAINTY SIGNaGROUP MARK",
    "aPLUTO FORM TWOmHREElFOURmIVEaTRANSPLUTOaPROSERPINAaASTRAEAaHYGIEAaPHOLUSaNESSUS",
    "aWHITE MOON SELENAaBLACK DIAMOND ON CROSSaTRUE LIGHT MOON ARTAaCUPIDOaHADESaZEUSaKRONOS",
    "aAPOLLONbDMETOSaVULCANUSaPOSEIDONaLEFT HALF BLACK STARaRIGHT HALF BLACK STAR",
    "aSTAR WITH LEFT HALF BLACKkRIGHT HALF BLACK",
    "aLEFTWARDS TWO-HEADED ARROW WITH TRIANGLE ARROWHEADS",
    "aUPWARDS TWO-HEADED ARROW WITH TRIANGLE ARROWHEADS",
    "aRIGHTWARDS TWO-HEADED ARROW WITH TRIANGLE ARROWHEADS",
    "aDOWNWARDS TWO-HEADED ARROW WITH TRIANGLE ARROWHEADSaERIS FORM ONEkTWOaSEDNA",
    "aRUSSIAN ASTROLOGICAL SYMBOL VIGINTILEbcNOVILEbcQUINTILEbcBINOVILEbcSENTAGONbcTREDECILE",
    "aEQUALS SIGN WITH INFINITY BELOWaUNITED SYMBOLaSEPARATED SYMBOLaDOUBLED SYMBOLaPASSED SYMBOL",
    "aREVERSED RIGHT ANGLEaHELLSCHREIBER PAUSE SYMBOLaGLAGOLITIC CAPITAL LETTER AZUbaBUKYbaVEDE",
    "baGLAGOLIbaDOBRObaYESTUbaZHIVETEbaDZELObaZEMLJAbaIZHEbbNITIAL IZHEbb+1baDJERVIbaKAKObaLJUDIJE",
    "baMYSLITEbaNASHIbaONUbaPOKOJIbaRITSIbaSLOVObaTVRIDObaUKUbaFRITUbaHERUbaOTUbaPEbaSHTAbaTSI",
    "baCHRIVIbaSHAbaYERUbdIbbATIbaSPIDERY HAbaYUbaSMALL YUSbj WITH TAILbaYObaIOTATED SMALL YUS",
    "baBIG YUSbaIOTATED BIG YUSbaFITAbaIZHITSAbaSHTAPICbaTROKUTASTI AbaLATINATE MYSLITE",
    "baCAUDATE CHRIVIlSMALL LETTER AZUyBUKYyVEDEyGLAGOLIyDOBROyYESTUyZHIVETEyDZELOyZEMLJAyIZHE",
    "zNITIAL IZHEz+1yDJERVIyKAKOyLJUDIJEyMYSLITEyNASHIyONUyPOKOJIyRITSIySLOVOyTVRIDOyUKUyFRITU",
    "yHERUyOTUyPEySHTAyTSIyCHRIVIySHAyYERUbbIzATIySPIDERY HAyYUySMALL YUSbh WITH TAILyYO",
    "yIOTATED SMALL YUSyBIG YUSyIOTATED BIG YUSyFITAyIZHITSAySHTAPICyTROKUTASTI AyLATINATE MYSLITE",
    "yCAUDATE CHRIVIaLATIN CAPITAL LETTER L WITH DOUBLE BARgSMALL LETTER L WITH DOUBLE BAR",
    "gCAPITAL LETTER L WITH MIDDLE TILDEvP WITH STROKEvR WITH TAILgSMALL LETTER A WITH STROKE",
    "tT WITH DIAGONAL STROKEgCAPITAL LETTER H WITH DESCENDERgSMALL LETTER H WITH DESCENDER",
    "gCAPITAL LETTER K WITH DESCENDERgSMALL LETTER K WITH DESCENDER",
    "gCAPITAL LETTER Z WITH DESCENDERgSMALL LETTER Z WITH DESCENDERgCAPITAL LETTER ALPHA",
    "vM WITH HOOKvTURNED AbdLPHAgSMALL LETTER V WITH RIGHT HOOKgCAPITAL LETTER W WITH HOOK",
    "gSMALL LETTER W WITH HOOKtV WITH CURLgCAPITAL LETTER HALF HgSMALL LETTER HALF HtTAILLESS PHI",
    "tE WITH NOTCHtTURNED R WITH TAILtO WITH LOW RING INSIDEgLETTER SMALL CAPITAL TURNED E",
    "gSUBSCRIPT SMALL LETTER JaMODIFIER LETTER CAPITAL VaLATIN CAPITAL LETTER S WITH SWASH TAIL",
    "vZ WITH SWASH TAILaCOPTIC CAPITAL LETTER ALFAhSMALL LETTER ALFAhCAPITAL LETTER VIDA",
    "hSMALL LETTER VIDAhCAPITAL LETTER GAMMAhSMALL LETTER GAMMAhCAPITAL LETTER DALDA",
    "hSMALL LETTER DALDAhCAPITAL LETTER EIEhSMALL LETTER EIEhCAPITAL LETTER SOUhSMALL LETTER SOU",
    "hCAPITAL LETTER ZATAhSMALL LETTER ZATAhCAPITAL LETTER HATEhSMALL LETTER HATE",
    "hCAPITAL LETTER THETHEhSMALL LETTER THETHEhCAPITAL LETTER IAUDAhSMALL LETTER IAUDA",
    "hCAPITAL LETTER KAPAhSMALL LETTER KAPAhCAPITAL LETTER LAULAhSMALL LETTER LAULA",
    "hCAPITAL LETTER MIhSMALL LETTER MIhCAPITAL LETTER NIhSMALL LETTER NIhCAPITAL LETTER KSI",
    "hSMALL LETTER KSIhCAPITAL LETTER OhSMALL LETTER OhCAPITAL LETTER PIhSMALL LETTER PI",
    "hCAPITAL LETTER ROhSMALL LETTER ROhCAPITAL LETTER SIMAhSMALL LETTER SIMAhCAPITAL LETTER TAU",
    "hSMALL LETTER TAUhCAPITAL LETTER UAhSMALL LETTER UAhCAPITAL LETTER FIhSMALL LETTER FI",
    "hCAPITAL LETTER KHIhSMALL LETTER KHIhCAPITAL LETTER PSIhSMALL LETTER PSIhCAPITAL LETTER OOU",
    "hSMALL LETTER OOUhCAPITAL LETTER DIALECT-P ALEFhSMALL LETTER DIALECT-P ALEF",
    "hCAPITAL LETTER OLD COPTIC AINhSMALL LETTER OLD COPTIC AINhCAPITAL LETTER CRYPTOGRAMMIC EIE",
    "hSMALL LETTER CRYPTOGRAMMIC EIEhCAPITAL LETTER DIALECT-P KAPAhSMALL LETTER DIALECT-P KAPA",
    "hCAPITAL LETTER DIALECT-P NIhSMALL LETTER DIALECT-P NIhCAPITAL LETTER CRYPTOGRAMMIC NI",
    "hSMALL LETTER CRYPTOGRAMMIC NIhCAPITAL LETTER OLD COPTIC OOUhSMALL LETTER OLD COPTIC OOU",
    "hCAPITAL LETTER SAMPIhSMALL LETTER SAMPIhCAPITAL LETTER CROSSED SHEI",
    "hSMALL LETTER CROSSED SHEIhCAPITAL LETTER OLD COPTIC SHEIhSMALL LETTER OLD COPTIC SHEI",
    "hCAPITAL LETTER OLD COPTIC ESHhSMALL LETTER OLD COPTIC ESHhCAPITAL LETTER AKHMIMIC KHEI",
    "hSMALL LETTER AKHMIMIC KHEIhCAPITAL LETTER DIALECT-P HORIhSMALL LETTER DIALECT-P HORI",
    "hCAPITAL LETTER OLD COPTIC HORIhSMALL LETTER OLD COPTIC HORIhCAPITAL LETTER OLD COPTIC HA",
    "hSMALL LETTER OLD COPTIC HAhCAPITAL LETTER L-SHAPED HAhSMALL LETTER L-SHAPED HA",
    "hCAPITAL LETTER OLD COPTIC HEIhSMALL LETTER OLD COPTIC HEIhCAPITAL LETTER OLD COPTIC HAT",
    "hSMALL LETTER OLD COPTIC HAThCAPITAL LETTER OLD COPTIC GANGIAhSMALL LETTER OLD COPTIC GANGIA",
    "hCAPITAL LETTER OLD COPTIC DJAhSMALL LETTER OLD COPTIC DJAhCAPITAL LETTER OLD COPTIC SHIMA",
    "hSMALL LETTER OLD COPTIC SHIMAhCAPITAL LETTER OLD NUBIAN SHIMAhSMALL LETTER OLD NUBIAN SHIMA",
    "hCAPITAL LETTER OLD NUBIAN NGIhSMALL LETTER OLD NUBIAN NGIhCAPITAL LETTER OLD NUBIAN NYI",
    "hSMALL LETTER OLD NUBIAN NYIhCAPITAL LETTER OLD NUBIAN WAUhSMALL LETTER OLD NUBIAN WAU",
    "iYMBOL KAIoMI ROoPI ROoSTAUROSoTAU ROoKHI ROoSHIMA SIMAhCAPITAL LETTER CRYPTOGRAMMIC SHEI",
    "hSMALL LETTER CRYPTOGRAMMIC SHEIhCAPITAL LETTER CRYPTOGRAMMIC GANGIA",
    "hSMALL LETTER CRYPTOGRAMMIC GANGIAhCOMBINING NI ABOVErSPIRITUS ASPERbaLENIS",
    "iAPITAL LETTER BOHAIRIC KHEIhSMALL LETTER BOHAIRIC KHEI+6hOLD NUBIAN FULL STOP",
    "sDIRECT QUESTION MARKsINDIRECT QUESTION MARKsVERSE DIVIDERhFRACTION ONE HALFiULL STOP",
    "hMORPHOLOGICAL DIVIDERaGEORGIAN SMALL LETTER ANwBANwGANwDONwENwVINwZENwTANwINwKANwLASwMANwNAR",
    "wONwPARwZHARwRAEwSANwTARwUNwPHARwKHARwGHANwQARwSHINwCHINxANwJILwCILxHARwXANwJHANwHAExExIEwWE",
    "wHARxOE+2wYN+6wAEN+3aTIFINAGH LETTER YAsBtHsGtHHqBERBER ACADEMY YAJqYAJsDtHtDuHrEYrAFsK",
    "qTUAREG YAKqYAKHHsHqBERBER ACADEMY YAHqTUAREG YAHqYAHHsAsKHqTUAREG YAKHqYAQqTUAREG YAQqYIrAZH",
    "qAHAGGAR YAZHqTUAREG YAZHqYALsMsNqTUAREG YAGNzNGqYAPrUrARtRsGHqTUAREG YAGHqAYER YAGHqYAStStH",
    "sTtHsCHsTTsVsWsYsZqTAWELLEMET YAZqYAZZrErO+8jMODIFIER LETTER LABIALIZATION MARK",
    "jSEPARATOR MARK+15jCONSONANT JOINERaETHIOPIC SYLLABLE LOAsMOAsROAsSOAtHOAsBOAsTOAsCOAsNOAtYOA",
    "sGLOTTAL OAsZOAsDOAtDOAsJOAsTHOAsCHOAsPHOAtOAsGGWAvIvEEw+10sSSAuUuIuAAuEEv+1uO+2sCCAuUuIuAA",
    "uEEv+1uO+2sZZAuUuIuAAuEEv+1uO+2sCCHAvUvIvAAvEEw+1vO+2sQYAuUuIuAAuEEv+1uO+2sKYAuUuIuAAuEEv+1uO",
    "+2sXYAuUuIuAAuEEv+1uO+2sGYAuUuIuAAuEEv+1uO+2aCOMBINING CYRILLIC LETTER BEbaVEbaGHEbaDEbaZHE",
    "bbEbaKAbaELbbMbbNbaObaPEbaERbbSbaTEbaHAbaTSEbaCHEbaSHAbcCHAbaFITAbaES-TEbaAbaIEbaDJERV",
    "baMONOGRAPH UKbaYATbbUbaIOTIFIED AbaLITTLE YUSbaBIG YUSbaIOTIFIED BIG YUS",
    "aRIGHT ANGLE SUBSTITUTION MARKERmDOTTED SUBSTITUTION MARKERaLEFT SUBSTITUTION BRACKET",
    "aRIGHT SUBSTITUTION BRACKETaLEFT DOTTED SUBSTITUTION BRACKET",
    "aRIGHT DOTTED SUBSTITUTION BRACKETbAISED INTERPOLATION MARKERhDOTTED INTERPOLATION MARKER",
    "aDOTTED TRANSPOSITION MARKERaLEFT TRANSPOSITION BRACKETaRIGHT TRANSPOSITION BRACKET",
    "bAISED SQUAREaLEFT RAISED OMISSION BRACKETaRIGHT RAISED OMISSION BRACKETaEDITORIAL CORONIS",
    "aPARAGRAPHOSaFORKED PARAGRAPHOSaREVERSED FORKED PARAGRAPHOSaHYPODIASTOLEaDOTTED OBELOS",
    "cWNWARDS ANCORAaUPWARDS ANCORAaDOTTED RIGHT-POINTING ANGLEcUBLE OBLIQUE HYPHEN",
    "aINVERTED INTERROBANGaPALM BRANCHaHYPHEN WITH DIAERESISaTILDE WITH RING ABOVE",
    "aLEFT LOW PARAPHRASE BRACKETaRIGHT LOW PARAPHRASE BRACKETaTILDE WITH DOT ABOVEpBELOW",
    "aLEFT VERTICAL BAR WITH QUILLaRIGHT VERTICAL BAR WITH QUILLaTOP LEFT HALF BRACKET",
    "eRIGHT HALF BRACKETaBOTTOM LEFT HALF BRACKEThRIGHT HALF BRACKETaLEFT SIDEWAYS U BRACKET",
    "aRIGHT SIDEWAYS U BRACKETaLEFT DOUBLE PARENTHESISaRIGHT DOUBLE PARENTHESIS",
    "aTWO DOTS OVER ONE DOT PUNCTUATIONaONE DOT OVER TWO DOTS PUNCTUATION",
    "aSQUARED FOUR DOT PUNCTUATIONaFIVE DOT MARKaREVERSED QUESTION MARKaVERTICAL TILDEaRING POINT",
    "aWORD SEPARATOR MIDDLE DOTaTURNED COMMAaRAISED DOThCOMMAaTURNED SEMICOLON",
    "aDAGGER WITH LEFT GUARDmRIGHT GUARDaTURNED DAGGERbOP HALF SECTION SIGNbWO-EM DASH",
    "bHREE-EM DASHaSTENOGRAPHIC FULL STOPaVERTICAL SIX DOTSaWIGGLY VERTICAL LINEaCAPITULUM",
    "aDOUBLE HYPHENaREVERSED COMMAaDOUBLE LOW-REVERSED-9 QUOTATION MARKbASH WITH LEFT UPTURN",
    "bOUBLE SUSPENSION MARKaINVERTED LOW KAVYKAt WITH KAVYKA ABOVEaLOW KAVYKAk WITH DOT",
    "aDOUBLE STACKED COMMAcTTED SOLIDUSaTRIPLE DAGGERaMEDIEVAL COMMAaPARAGRAPHUS MARK",
    "bUNCTUS ELEVATUS MARKaCORNISH VERSE DIVIDERbROSS PATTY WITH RIGHT CROSSBARrLEFT CROSSBAR",
    "aTIRONIAN SIGN CAPITAL ETaMEDIEVAL EXCLAMATION MARKjQUESTION MARK",
    "aLEFT SQUARE BRACKET WITH STROKEaRIGHT SQUARE BRACKET WITH STROKE",
    "aLEFT SQUARE BRACKET WITH DOUBLE STROKEaRIGHT SQUARE BRACKET WITH DOUBLE STROKE",
    "aTOP HALF LEFT PARENTHESISjRIGHT PARENTHESISaBOTTOM HALF LEFT PARENTHESISmRIGHT PARENTHESIS",
    "aOBLIQUE HYPHEN+35aCJK RADICAL REPEATmCLIFFmSECOND ONEtTWOuHREEmPERSONmBOXmTABLEmKNIFE ONE",
    "sTWOmDIVINATIONmSEALnMALL ONEsTWOmLAME ONErTWOsHREErFOURmSNAKEmTHREADmSNOUT ONEsTWOmHEART ONE",
    "sTWOnANDmRAP+2mCHOKEmSUNmMOONmDEATHmMOTHERmCIVILIANmWATER ONEsTWOmFIREmPAW ONEqTWO",
    "mSIMPLIFIED HALF TREE TRUNKmCOWmDOGmJADEmBOLT OF CLOTHmEYEmSPIRIT ONEtTWOmBAMBOOmSILK",
    "mC-SIMPLIFIED SILKmNET ONEqTWOrHREEqFOURmMESHmSHEEPmRAMmEWEmOLDmBRUSH ONEsTWOmMEATnORTAR",
    "mGRASS ONEsTWOtHREEmTIGERmCLOTHESmWEST ONErTWOmC-SIMPLIFIED SEEmSIMPLIFIED HORNmHORN",
    "mC-SIMPLIFIED SPEECHbaHELLmFOOTmC-SIMPLIFIED CARTmSIMPLIFIED WALKmWALK ONErTWOmCITY",
    "n-SIMPLIFIED GOLDmLONG ONErTWOmC-SIMPLIFIED LONGzGATEmMOUND ONEsTWOmRAINmBLUE",
    "mC-SIMPLIFIED TANNED LEATHERzLEAFzWINDzFLYmEAT ONEqTWOrHREEmC-SIMPLIFIED EATmHEAD",
    "mC-SIMPLIFIED HORSEmBONEmGHOSTmC-SIMPLIFIED FISHzBIRDzSALTmSIMPLIFIED WHEATxYELLOW",
    "mC-SIMPLIFIED FROGmJ-SIMPLIFIED EVENmC-SIMPLIFIED EVENmJ-SIMPLIFIED TOOTHmC-SIMPLIFIED TOOTH",
    "mJ-SIMPLIFIED DRAGONmC-SIMPLIFIED DRAGONmTURTLEmJ-SIMPLIFIED TURTLEmC-SIMPLIFIED TURTLE",
    "+13aKANGXI RADICAL ONEpLINEpDOTpSLASHqECONDpHOOKpTWOpLIDpMANpLEGSpENTERqIGHTpDOWN BOXpCOVER",
    "pICEpTABLEpOPEN BOXpKNIFEpPOWERpWRAPpSPOONpRIGHT OPEN BOXpHIDING ENCLOSUREpTENpDIVINATION",
    "pSEALpCLIFFpPRIVATEpAGAINpMOUTHpENCLOSUREqARTHpSCHOLARpGOr SLOWLYpEVENINGpBIGpWOMANpCHILD",
    "pROOFpINCHpSMALLpLAMEpCORPSEpSPROUTpMOUNTAINpRIVERpWORKpONESELFpTURBANpDRYpSHORT THREAD",
    "pDOTTED CLIFFpLONG STRIDEpTWO HANDSpSHOOTpBOWpSNOUTpBRISTLEpSTEPpHEARTqALBERDpDOORpHAND",
    "pBRANCHpRAPpSCRIPTpDIPPERpAXEpSQUAREpNOTpSUNqAYpMOONpTREEpLACKpSTOPpDEATHpWEAPONpDO NOT",
    "pCOMPAREpFURpCLANpSTEAMpWATERpFIREpCLAWpFATHERpDOUBLE XpHALF TREE TRUNKpSLICEpFANGpCOWpDOG",
    "pPROFOUNDpJADEpMELONpTILEpSWEETpLIFEpUSEpFIELDpBOLT OF CLOTHpSICKNESSpDOTTED TENTpWHITEpSKIN",
    "pDISHpEYEpSPEARpARROWpSTONEqPIRITpTRACKpGRAINpCAVEpSTANDpBAMBOOpRICEpSILKpJARpNETpSHEEP",
    "pFEATHERpOLDpANDpPLOWpEARpBRUSHpMEATqINISTERpSELFpARRIVEpMORTARpTONGUEpOPPOSEpBOATpSTOPPING",
    "pCOLORpGRASSpTIGERpINSECTpBLOODpWALK ENCLOSUREpCLOTHESpWESTpSEEpHORNpSPEECHpVALLEYpBEANpPIG",
    "pBADGERpSHELLpREDqUNpFOOTpBODYpCARTpBITTERpMORNINGpWALKpCITYpWINEpDISTINGUISHpVILLAGEpGOLD",
    "pLONGpGATEpMOUNDpSLAVEqHORT TAILED BIRDpRAINpBLUEpWRONGpFACEpLEATHERpTANNED LEATHERpLEEK",
    "pSOUNDpLEAFpWINDpFLYpEATpHEADpFRAGRANTpHORSEpBONEpTALLpHAIRpFIGHTpSACRIFICIAL WINEpCAULDRON",
    "pGHOSTpFISHpBIRDpSALTpDEERpWHEATpHEMPpYELLOWpMILLETpBLACKpEMBROIDERYpFROGpTRIPODpDRUMpRAT",
    "pNOSEpEVENpTOOTHpDRAGONpTURTLEpFLUTE+27aIDEOGRAPHIC DESCRIPTION CHARACTER LEFT TO RIGHT",
    "biABOVE TO BELOWbiLEFT TO MIDDLE AND RIGHTbiABOVE TO MIDDLE AND BELOWbiFULL SURROUND",
    "biSURROUND FROM ABOVEbwBELOWbwLEFTbwUPPER LEFTccRIGHTbwLOWER LEFTbiOVERLAID+5mSPACEmCOMMA",
    "mFULL STOPaDITTO MARKaJAPANESE INDUSTRIAL STANDARD SYMBOLaIDEOGRAPHIC ITERATION MARK",
    "mCLOSING MARKmNUMBER ZEROaLEFT ANGLE BRACKETaRIGHT ANGLE BRACKETaLEFT DOUBLE ANGLE BRACKET",
    "aRIGHT DOUBLE ANGLE BRACKETaLEFT CORNER BRACKETaRIGHT CORNER BRACKET",
    "aLEFT WHITE CORNER BRACKETaRIGHT WHITE CORNER BRACKETaLEFT BLACK LENTICULAR BRACKET",
    "aRIGHT BLACK LENTICULAR BRACKETaPOSTAL MARKaGETA MARKaLEFT TORTOISE SHELL BRACKET",
    "aRIGHT TORTOISE SHELL BRACKETaLEFT WHITE LENTICULAR BRACKETaRIGHT WHITE LENTICULAR BRACKET",
    "aLEFT WHITE TORTOISE SHELL BRACKETaRIGHT WHITE TORTOISE SHELL BRACKET",
    "aLEFT WHITE SQUARE BRACKETaRIGHT WHITE SQUARE BRACKETaWAVE DASH",
    "aREVERSED DOUBLE PRIME QUOTATION MARKaDOUBLE PRIME QUOTATION MARK",
    "aLOW DOUBLE PRIME QUOTATION MARKaPOSTAL MARK FACEaHANGZHOU NUMERAL ONErTWOsHREErFOURsIVErSIX",
    "sEVENrEIGHTrNINEaIDEOGRAPHIC LEVEL TONE MARKmRISING TONE MARKmDEPARTING TONE MARK",
    "mENTERING TONE MARKaHANGUL SINGLE DOT TONE MARKhDOUBLE DOT TONE MARKaWAVY DASH",
    "aVERTICAL KANA REPEAT MARKvWITH VOICED SOUND MARKvMARK UPPER HALF",
    "vWITH VOICED SOUND MARK UPPER HALFvMARK LOWER HALFaCIRCLED POSTAL MARK",
    "aIDEOGRAPHIC TELEGRAPH LINE FEED SEPARATOR SYMBOLaHANGZHOU NUMERAL TENsWENTYsHIRTY",
    "aVERTICAL IDEOGRAPHIC ITERATION MARKaMASU MARKaPART ALTERNATION MARK",
    "aIDEOGRAPHIC VARIATION INDICATORmHALF FILL SPACE+2aHIRAGANA LETTER SMALL AqAqSMALL IqI",
    "qSMALL UqUqSMALL EqEqSMALL OqOqKAqGAqKIqGIqKUqGUqKEqGEqKOqGOqSAqZAqSIqZIqSUqZUqSEqZEqSOqZOqTA",
    "qDAqTIqDIqSMALL TUqTUqDUqTEqDEqTOqDOqNArIrUrErOqHAqBAqPAqHIqBIqPIqHUqBUqPUqHEqBEqPEqHOqBOqPO",
    "qMArIrUrErOqSMALL YAqYAqSMALL YUqYUqSMALL YOqYOqRArIrUrErOqSMALL WAqWArIrErOqNqVUqSMALL KAxE",
    "+3aCOMBINING KATAKANA-HIRAGANA VOICED SOUND MARKbcSEMI-VOICED SOUND MARK",
    "aKATAKANA-HIRAGANA VOICED SOUND MARKsSEMI-VOICED SOUND MARKaHIRAGANA ITERATION MARK",
    "jVOICED ITERATION MARKjDIGRAPH YORIaKATAKANA-HIRAGANA DOUBLE HYPHENi LETTER SMALL AqAqSMALL I",
    "qIqSMALL UqUqSMALL EqEqSMALL OqOqKAqGAqKIqGIqKUqGUqKEqGEqKOqGOqSAqZAqSIqZIqSUqZUqSEqZEqSOqZO",
    "qTAqDAqTIqDIqSMALL TUqTUqDUqTEqDEqTOqDOqNArIrUrErOqHAqBAqPAqHIqBIqPIqHUqBUqPUqHEqBEqPEqHOqBO",
    "qPOqMArIrUrErOqSMALL YAqYAqSMALL YUqYUqSMALL YOqYOqRArIrUrErOqSMALL WAqWArIrErOqNqVUqSMALL KA",
    "xEqVArIrErOjMIDDLE DOTi-HIRAGANA PROLONGED SOUND MARKi ITERATION MARKjVOICED ITERATION MARK",
    "jDIGRAPH KOTO+6aBOPOMOFO LETTER BqPqMqFqDqTqNqLqGqKqHqJqQqXqZHqCHqSHqRqZqCqSqAqOqErHqAIqEIqAU",
    "qOUqANqENqANGqENGrRqIqUqIUqVqNGqGNqIHqO WITH DOT ABOVEqNN+2aHANGUL LETTER KIYEOKoSSANGKIYEOK",
    "oKIYEOK-SIOSoNIEUNt-CIEUCuHIEUHoTIKEUToSSANGTIKEUToRIEULt-KIYEOKuMIEUMuPIEUPuSIOSuTHIEUTH",
    "uPHIEUPHuHIEUHoMIEUMoPIEUPoSSANGPIEUPoPIEUP-SIOSoSIOSpSANGSIOSoIEUNGoCIEUCoSSANGCIEUCoCHIEUCH",
    "oKHIEUKHoTHIEUTHoPHIEUPHoHIEUHoApEoYAqEoEOp+1oYEOq+1oOoWAqEoOEoYOoUoWEOq+1pIoYUoEUoYIoI",
    "hFILLERhLETTER SSANGNIEUNoNIEUN-TIKEUTuSIOSuPANSIOSoRIEUL-KIYEOK-SIOSuTIKEUTuPIEUP-SIOS",
    "vANSIOSuYEORINHIEUHoMIEUM-PIEUPuSIOSuPANSIOSoKAPYEOUNMIEUMoPIEUP-KIYEOKuTIKEUTuSIOS-KIYEOK",
    "zTIKEUTuCIEUCuTHIEUTHoKAPYEOUNPIEUPwSSANGPIEUPoSIOS-KIYEOKtNIEUNtTIKEUTtPIEUPtCIEUCoPANSIOS",
    "oSSANGIEUNGoYESIEUNGw-SIOSxPANSIOSoKAPYEOUNPHIEUPHoSSANGHIEUHoYEORINHIEUHpO-YAtErIpU-YEOt+1rI",
    "oARAEAtE+2aIDEOGRAPHIC ANNOTATION LINKING MARKxREVERSE MARKxONE MARKxTWO MARKyHREE MARK",
    "xFOUR MARKxTOP MARKxMIDDLE MARKxBOTTOM MARKxFIRST MARKxSECOND MARKxTHIRD MARKxFOURTH MARK",
    "xHEAVEN MARKxEARTH MARKxMAN MARKaBOPOMOFO LETTER BUqZIqJIqGUqEErNNqOOrNNqIRqANNqINNqUNNqIM",
    "qNGGqAINNrUNNrMqOMrNGqINNNjFINAL LETTER PwTwKwHjLETTER GHqLHqZYjFINAL LETTER GjLETTER GWqKW",
    "qOEqAHaCJK STROKE TlWGlXGlBXGlSWlHZZnGmPmZWGlSZWGlHZTnZPmPWGmZWnZZlNlHlSlPlSPlDlHZmGlSZmWZmT",
    "mGlPDmZlTNlSZZmWGlHXWGmZZZGlPGlQ+13aKATAKANA LETTER SMALL KUwSIxUwTOwNUwHAxIxUxExOwMUwRAxIxU",
    "xExOaPARENTHESIZED HANGUL KIYEOKvNIEUNvTIKEUTvRIEULvMIEUMvPIEUPvSIOSvIEUNGvCIEUCwHIEUCH",
    "vKHIEUKHvTHIEUTHvPHIEUPHvHIEUHvKIYEOK AvNIEUN AvTIKEUT AvRIEUL AvMIEUM AvPIEUP AvSIOS A",
    "vIEUNG AvCIEUC AwHIEUCH AvKHIEUKH AvTHIEUTH AvPHIEUPH AvHIEUH AvCIEUC U",
    "oKOREAN CHARACTER OJEONbg HU+2oIDEOGRAPH ONEyTWOzHREEyFOURzIVEySIXzEVENyEIGHTyNINEyTENyMOON",
    "yFIREyWATERzOODyMETALyEARTHySUNzTOCKyHAVEySOCIETYyNAMEySPECIALyFINANCIALyCONGRATULATIONyLABOR",
    "yREPRESENTyCALLySTUDYzUPERVISEyENTERPRISEyRESOURCEyALLIANCEyFESTIVALyRESTySELFyREACH",
    "aCIRCLED IDEOGRAPH QUESTIONsKINDERGARTENsSCHOOLsKOTOiNUMBER TEN ON BLACK SQUARE",
    "qWENTY ON BLACK SQUAREqHIRTY ON BLACK SQUAREpFORTY ON BLACK SQUAREqIFTY ON BLACK SQUARE",
    "pSIXTY ON BLACK SQUAREqEVENTY ON BLACK SQUAREpEIGHTY ON BLACK SQUAREaPARTNERSHIP SIGN",
    "aCIRCLED NUMBER TWENTY ONEwTWOxHREEwFOURxIVEwSIXxEVENwEIGHTwNINEqHIRTYv ONEwTWOxHREEwFOURxIVE",
    "iHANGUL KIYEOKpNIEUNpTIKEUTpRIEULpMIEUMpPIEUPpSIOSpIEUNGpCIEUCqHIEUCHpKHIEUKHpTHIEUTHpPHIEUPH",
    "pHIEUHpKIYEOK ApNIEUN ApTIKEUT ApRIEUL ApMIEUM ApPIEUP ApSIOS ApIEUNG ApCIEUC AqHIEUCH A",
    "pKHIEUKH ApTHIEUTH ApPHIEUPH ApHIEUH AiKOREAN CHARACTER CHAMKOzJUEUIiHANGUL IEUNG U",
    "aKOREAN STANDARD SYMBOLaCIRCLED IDEOGRAPH ONEsTWOtHREEsFOURtIVEsSIXtEVENsEIGHTsNINEsTENsMOON",
    "sFIREsWATERtOODsMETALsEARTHsSUNtTOCKsHAVEsSOCIETYsNAMEsSPECIALsFINANCIALsCONGRATULATIONsLABOR",
    "sSECRETsMALEsFEMALEsSUITABLEsEXCELLENTsPRINTsATTENTIONsITEMsRESTsCOPYuRRECTsHIGHsCENTREsLOW",
    "tEFTsRIGHTsMEDICINEsRELIGIONsSTUDYtUPERVISEsENTERPRISEsRESOURCEsALLIANCEsNIGHT",
    "iNUMBER THIRTY SIXxEVENwEIGHTwNINEpFORTYu ONEvTWOwHREEvFOURwIVEvSIXwEVENvEIGHTvNINEqIFTY",
    "aIDEOGRAPHIC TELEGRAPH SYMBOL FOR JANUARYbhFEBRUARYbhMARCHbhAPRILbhMAYbhJUNEbjLYbhAUGUST",
    "bhSEPTEMBERbhOCTOBERbhNOVEMBERbhDECEMBERaSQUARE HGhERGiVaLIMITED LIABILITY SIGN",
    "aCIRCLED KATAKANA ArIrUrErOrKAsIsUsEsOrSAsIsUsEsOrTAsIsUsEsOrNAsIsUsEsOrHAsIsUsEsOrMAsIsUsEsO",
    "rYAsUsOrRAsIsUsEsOrWAsIsEsOaSQUARE ERA NAME REIWAhAPAATOiRUHUAiNPEAiARUhININGUjTIhUON",
    "hESUKUUDOiEKAAhONSUiOMUhKAIRIjRATTOkORIIhGARONjNMAiIGAjNIIhKYURIIhGIRUDAAhKIROlGURAMUlMEETORU",
    "lWATTOhGURAMUnTONhKURUZEIROkOONEiEESUiORUNAjOPOhSAIKURUjNTIIMUiIRINGUiENTIlOhDAASUiESIiORU",
    "hTONhNANOiOTTOhHAITUhPAASENTOkTUhBAARERUhPIASUTORUjKURUkOhBIRUhHUARADDOjIITOhBUSSYERUhHURAN",
    "iEKUTAARUhPESOjNIHIhHERUTUhPENSUjEZIhBEETAhPOINTOhBORUTOhHONhPONDOhHOORUkNhMAIKUROkRUjHHA",
    "jRUKUjNSYONiIKURONjRIlBAARUiEGAlTONjETORUhYAADOkRUiUANhRITTORUjRAiUPIIjUBURUiEMUjNTOGENhWATTO",
    "aIDEOGRAPHIC TELEGRAPH SYMBOL FOR HOUR ZERObmONEbmTWObnHREEbmFOURbnIVEbmSIXbnEVENbmEIGHT",
    "bmNINEbmTENbmELEVENbmTWELVEbnHIRTEENbmFOURTEENbnIFTEENbmSIXTEENbnEVENTEENbmEIGHTEENbmNINETEEN",
    "bmTWENTYbs-ONEbtTWObuHREEbtFOURaSQUARE HPAhDAhAUhBARhOVhPChDMj SQUAREDkCUBEDhIU",
    "hERA NAME HEISEIqSYOUWAqTAISYOUqMEIZIhCORPORATIONhPA AMPShNAhMU AiAhKAiBhMBhGBhCALhKCALhPFhNF",
    "hMU FkGiGhKGhHZhKHZhMHZhGHZhTHZhMU LiLhDLhKLhFMhNMhMU MiMhCMhKMhMM SQUAREDhCM SQUARED",
    "hM SQUAREDhKM SQUAREDhMM CUBEDhCM CUBEDhM CUBEDhKM CUBEDhM OVER Sp SQUAREDhPAhKPAhMPAhGPAhRAD",
    "k OVER Sr SQUAREDhPShNShMU SiShPVhNVhMU ViVhKVhMV MEGAhPWhNWhMU WiWhKWhMW MEGAhK OHMhM OHMhAM",
    "hBQhCCiDi OVER KGiOhDBhGYhHAiPhINhKKiM CAPITALiThLMiNiOGiXhMB SMALLiILiOLhPHiMiPMiRhSRiVhWB",
    "hV OVER MhA OVER MaIDEOGRAPHIC TELEGRAPH SYMBOL FOR DAY ONEblTWObmHREEblFOURbmIVEblSIXbmEVEN",
    "blEIGHTblNINEblTENblELEVENblTWELVEbmHIRTEENblFOURTEENbmIFTEENblSIXTEENbmEVENTEENblEIGHTEEN",
    "blNINETEENblTWENTYbr-ONEbsTWObtHREEbsFOURbtIVEbsSIXbtEVENbsEIGHTbsNINEbmHIRTYbr-ONE",
    "aSQUARE GAL+6593aHEXAGRAM FOR THE CREATIVE HEAVENrRECEPTIVE EARTHnDIFFICULTY AT THE BEGINNING",
    "nYOUTHFUL FOLLYnWAITINGnCONFLICTnTHE ARMYnHOLDING TOGETHERnSMALL TAMINGnTREADINGnPEACE",
    "nSTANDSTILLnFELLOWSHIPnGREAT POSSESSIONnMODESTYnENTHUSIASMnFOLLOWINGnWORK ON THE DECAYED",
    "nAPPROACHnCONTEMPLATIONnBITING THROUGHnGRACEnSPLITTING APARTnRETURNnINNOCENCEnGREAT TAMING",
    "nMOUTH CORNERSnGREAT PREPONDERANCEnTHE ABYSMAL WATERrCLINGING FIREnINFLUENCEnDURATIONnRETREAT",
    "nGREAT POWERnPROGRESSnDARKENING OF THE LIGHTnTHE FAMILYnOPPOSITIONoBSTRUCTIONnDELIVERANCE",
    "pCREASEnINCREASEnBREAKTHROUGHnCOMING TO MEETnGATHERING TOGETHERnPUSHING UPWARDnOPPRESSION",
    "nTHE WELLnREVOLUTIONnTHE CAULDRONrAROUSING THUNDERrKEEPING STILL MOUNTAINnDEVELOPMENT",
    "nTHE MARRYING MAIDENnABUNDANCEnTHE WANDERERrGENTLE WINDrJOYOUS LAKEnDISPERSIONnLIMITATION",
    "nINNER TRUTHnSMALL PREPONDERANCEnAFTER COMPLETIONnBEFORE COMPLETION+20993aYI SYLLABLE ITnXn",
    "+1nPnEToXo+1oPmATnXn+1nPmUOXo+1oPmOTnXn+1nPmEXn+1mITERATION MARK+0mWUmBIToXo+1oPoETpXp+1pPnAT",
    "oXo+1oPnUOXp+1pPnOToXo+1oPnEXo+1oPnUToXo+1oPoRXp+1nYToXo+1oPoRXp+1mPIToXo+1oPoEXp+1pPnAToXo",
    "+1oPnUOXp+1pPnOToXo+1oPnUToXo+1oPoRXp+1nYToXo+1oPoRXp+1mBBITpXp+1pPpETqXq+1qPoATpXp+1pPoUOXq",
    "+1qPoOTpXp+1pPoEXp+1pPoUTpXp+1pPpRXq+1oYTpXp+1pPmNBITpXp+1pPpEXq+1qPoATpXp+1pPoOTpXp+1pPoUTpX",
    "p+1pPpRXq+1oYTpXp+1pPpRXq+1mHMITpXp+1pPpEXq+1qPoATpXp+1pPoUOXq+1qPoOTpXp+1pPoUTpXp+1pPpRXq",
    "+1oYXp+1pPpRXq+1mMIToXo+1oPoEXp+1pPnAToXo+1oPnUOTpXp+1pPnOToXo+1oPnEXo+1nUToXo+1oPoRXp+1nYToX",
    "o+1oPmFIToXo+1oPnAToXo+1oPnOXo+1oPnUToXo+1oPoRXp+1nYToXo+1oPmVIToXo+1oPoETpXp+1pPnAToXo+1oP",
    "nOToXo+1oPnEXoPnUToXo+1oPoRXp+1nYToXo+1oPoRXp+1mDIToXo+1oPoEXp+1pPnAToXo+1oPnUOXp+1nOToXo+1oP",
    "nEXo+1oPnUToXo+1oPoRXp+1mTIToXo+1oPoEXp+1pPnAToXo+1oPnUOTpXp+1pPnOToXo+1oPnEXo+1oPnUToXo+1oP",
    "oRXp+1mDDITpXp+1pPpEXq+1qPoATpXp+1pPoUOXq+1qPoOTpXp+1pPoEXp+1pPoUTpXp+1pPpRXq+1mNDITpXp+1pP",
    "pEXq+1oATpXp+1pPoOTpXp+1pPoEXp+1pPoUTpXp+1pPpRXq+1mHNITpXp+1pPpETqXq+1qPoATpXp+1pPoUOXq+1oOT",
    "pXpPoEXp+1pPoUTmNIToXo+1oPoEXp+1pPnAXo+1oPnUOXp+1pPnOToXo+1oPnEXo+1oPnUToXo+1oPoRXp+1mHLITpXp",
    "+1pPpEXq+1qPoATpXp+1pPoUOXq+1qPoOXp+1pPoEXp+1pPoUTpXp+1pPpRXq+1oYTpXp+1pPpRXq+1mLIToXo+1oPoET",
    "pXp+1pPnAToXo+1oPnUOTpXp+1pPnOToXo+1oPnEXo+1oPnUToXo+1oPoRXp+1nYToXo+1oPoRXp+1mGIToXo+1oPoET",
    "pXp+1pPnAToXo+1oPnUOTpXp+1pPnOToXo+1oPnEToXo+1oPnUToXo+1oPoRXp+1mKIToXo+1oPoEXp+1pPnAToXo+1oP",
    "nUOXp+1pPnOToXo+1oPnEToXo+1oPnUToXo+1oPoRXp+1mGGITpXp+1pEXq+1qPoATpXp+1pPoUOTqXq+1qPoOTpXp",
    "+1pPoETpXp+1pPoUTpXp+1pPpRXq+1mMGIEXq+1oATpXp+1pPoUOXq+1qPoOTpXp+1pPoEXp+1pPoUTpXp+1pPpRXq",
    "+1mHXITpXp+1pPpETqXq+1qPoATpXp+1pPoUOTqXq+1qPoOTpXp+1pPoEXp+1pPmNGIEXq+1qPoATpXp+1pPoUOTqXq",
    "+1oOTpXp+1pPoEXp+1pPmHIToEXp+1nAToXo+1oPnUOTpXp+1pPnOToXo+1oPnEXo+1oPmWAToXo+1oPnUOXp+1pPnOXo",
    "+1oPnEXo+1oPmZIToXo+1oPoEXp+1pPnAToXo+1oPnUOXp+1pPnOToXo+1oPnEXo+1oPnUToXo+1oPoRXp+1nYToXo",
    "+1oPoRXp+1mCIToXo+1oPoETpXp+1pPnAToXo+1oPnUOXp+1pPnOToXo+1oPnEXo+1oPnUToXo+1oPoRXp+1nYToXo",
    "+1oPoRXp+1mZZITpXp+1pPpETqXq+1qPoATpXp+1pPoOXp+1pPoEXp+1pPoUXp+1pPpRXq+1oYTpXp+1pPpRXq+1mNZIT",
    "pXp+1pPpEXq+1qPoATpXp+1pPoUOXq+1oOXpPoEXp+1oUXp+1pPpRXq+1oYTpXp+1pPpRXq+1mSIToXo+1oPoEXp+1pP",
    "nAToXo+1oPnUOXp+1pPnOToXo+1oPnEXo+1oPnUToXo+1oPoRXp+1nYToXo+1oPoRXp+1nSITpXp+1pPpEXq+1qPoATpX",
    "p+1pPoOTpXp+1pPoEXp+1pPoUTpXp+1pPoYTpXp+1pPpRXq+1mZHATpXp+1pPoUOXq+1qPoOTpXp+1pPoETpXp+1pPoUT",
    "pXp+1pPpRXq+1oYTpXp+1pPpRXq+1mCHATpXp+1pPoUOTqXq+1qPoOTpXp+1pPoETpXp+1pPoUXp+1pPpRXq+1oYTpXp",
    "+1pPpRXq+1mRRAXp+1oUOXq+1oOTpXp+1pPoETpXp+1pPoUTpXp+1pPpRXq+1oYTpXp+1pPpRXq+1mNRATpXp+1pPoOXp",
    "+1pPoETpXp+1pPoUTpXp+1pPpRXq+1oYTpXp+1pPpRXq+1mSHATpXp+1pPoUOXq+1qPoOTpXp+1pPoETpXp+1pPoUTpXp",
    "+1pPpRXq+1oYTpXp+1pPpRXq+1mRAToXo+1oPnUOXp+1pPnOToXo+1oPnEXo+1oPnUToXo+1oPoRXp+1nYToXo+1oPoRX",
    "p+1mJIToXo+1oPoETpXp+1pPnUOTpXp+1pPnOToXo+1oPnUToXo+1oPoRXp+1nYToXo+1oPoRXp+1mQIToXo+1oPoETpX",
    "p+1pPnUOTpXp+1pPnOToXo+1oPnUToXo+1oPoRXp+1nYToXo+1oPoRXp+1mJJITpXp+1pPpETqXq+1qPoUOXq+1qPoOT",
    "pXp+1pPoUTpXp+1pPpRXq+1oYTpXp+1pPmNJITpXp+1pPpETqXq+1qPoUOXq+1oOTpXp+1pPoUXp+1pPpRXq+1oYTpXp",
    "+1pPpRXq+1nYITpXp+1pPpETqXq+1qPoUOXq+1qPoOTpXp+1pPoUTpXp+1pPmXIToXo+1oPoETpXp+1pPnUOXp+1nOToX",
    "o+1oPnYToXo+1oPoRXp+1mYIToXo+1oPoETpXp+1pPnUOTpXp+1pPnOToXo+1oPnUToXo+1oPoRXp+1nYToXo+1oPoRXp",
    "+4dRADICAL QOTlLIlKITlNYIPlCYPlSSIlGGOPmEPlMIlHXITlLYRlBBUTlMOPlYOlPUTlHXUOlTATlGAlZUPlCYT",
    "lDDURlBURlGGUOlNYOPlTUlOPlJJUTlZOTlPYTlHMOlYITlVURlSHYlVEPlZAlJOlNZUPlJJYlGOTlJJIElWOlDUlSHUR",
    "lLIElCYmUOPmIPlHXOPlSHATlZURlSHOPlCHElZZIETlNBIElKE+10aLISU LETTER BAmPAnHAmDAmTAnHAmGAmKAnHA",
    "mJAmCAnHAmDZAmTSAoHAmMAmNAmLAmSAmZHAnAmNGAmHAmXAmHHAmFAmWAmSHAmYAmGHAmAnEmEnUmImOmUnEnHmOE",
    "mTONE MYA TIrNA POrMYA CYAvBOvNAvJEUfPUNCTUATION COMMArFULL STOPaVAI SYLLABLE EEpNnHEEnWEEqN",
    "nPEEnBHEEoEEnMBEEnKPEEnMGBEEnGBEEnFEEnVEEnTEEoHEEnDHEEpHEEnLEEnREEnDEEnNDEEnSEEoHEEnZEEoHEE",
    "nCEEnJEEnNJEEnYEEnKEEnNGGEEnGEEnMEEnNEEoYEEnIoNnHIpNnWIpNnPInBHIoInMBInKPInMGBInGBInFInVInTI",
    "oHInDHIpHInLInRInDInNDInSIoHInZIoHInCInJInNJInYInKInNGGInGInMInNIoYInAoNnNGANnHApNnWApNnPA",
    "nBHAoAnMBAnKPAqNnMGBAnGBAnFAnVAnTAoHAnDHApHAnLAnRAnDAnNDAnSAoHAnZAoHAnCAnJAnNJAnYAnKApNnNGGA",
    "nGAnMAnNAoYAnOOpNnHOOnWOOqNnPOOnBHOOoOOnMBOOnKPOOnMGBOOnGBOOnFOOnVOOnTOOoHOOnDHOOpHOOnLOOnROO",
    "nDOOnNDOOnSOOoHOOnZOOoHOOnCOOnJOOnNJOOnYOOnKOOnNGGOOnGOOnMOOnNOOoYOOnUoNnHUpNnWUpNnPUnBHUoU",
    "nMBUnKPUnMGBUnGBUnFUnVUnTUoHUnDHUpHUnLUnRUnDUnNDUnSUoHUnZUoHUnCUnJUnNJUnYUnKUnNGGUnGUnMUnNU",
    "oYUnOoNnNGONnHOpNnWOpNnPOnBHOoOnMBOnKPOnMGBOnGBOqNnFOnVOnTOoHOnDHOpHOnLOnROnDOnNDOnSOoHOnZO",
    "oHOnCOnJOnNJOnYOnKOnNGGOnGOnMOnNOoYOnEoNnNGENnHEpNnWEpNnPEnBHEoEnMBEnKPEqNnMGBEnGBEqNnFEnVE",
    "nTEoHEnDHEpHEnLEnREnDEnNDEnSEoHEnZEoHEnCEnJEnNJEnYEnKEnNGGErNnGEpNnMEnNEoYEoGnLENGTHENER",
    "eCOMMAeFULL STOPeQUESTION MARKeSYLLABLE NDOLE FAtKAtSOOgMBOL FEENGlKEENGlTINGlNIIlBANGlFAA",
    "lTAAlDANGmOONGlKUNGlTONGlDO-OlJONGeDIGIT ZEROkONEkTWOlHREEkFOURlIVEkSIXlEVENkEIGHTkNINE",
    "eSYLLABLE NDOLE MAtDO+21aCYRILLIC CAPITAL LETTER ZEMLYAjSMALL LETTER ZEMLYA",
    "jCAPITAL LETTER DZELOjSMALL LETTER DZELOjCAPITAL LETTER REVERSED DZE",
    "jSMALL LETTER REVERSED DZEjCAPITAL LETTER IOTAjSMALL LETTER IOTAjCAPITAL LETTER DJERV",
    "jSMALL LETTER DJERVjCAPITAL LETTER MONOGRAPH UKjSMALL LETTER MONOGRAPH UK",
    "jCAPITAL LETTER BROAD OMEGAjSMALL LETTER BROAD OMEGAjCAPITAL LETTER NEUTRAL YER",
    "jSMALL LETTER NEUTRAL YERjCAPITAL LETTER YERU WITH BACK YERjSMALL LETTER YERU WITH BACK YER",
    "jCAPITAL LETTER IOTIFIED YATjSMALL LETTER IOTIFIED YATjCAPITAL LETTER REVERSED YU",
    "jSMALL LETTER REVERSED YUjCAPITAL LETTER IOTIFIED AjSMALL LETTER IOTIFIED A",
    "jCAPITAL LETTER CLOSED LITTLE YUSjSMALL LETTER CLOSED LITTLE YUSjCAPITAL LETTER BLENDED YUS",
    "jSMALL LETTER BLENDED YUSjCAPITAL LETTER IOTIFIED CLOSED LITTLE YUS",
    "jSMALL LETTER IOTIFIED CLOSED LITTLE YUSjCAPITAL LETTER YNjSMALL LETTER YN",
    "jCAPITAL LETTER REVERSED TSEjSMALL LETTER REVERSED TSEjCAPITAL LETTER SOFT DE",
    "jSMALL LETTER SOFT DEjCAPITAL LETTER SOFT ELjSMALL LETTER SOFT ELjCAPITAL LETTER SOFT EM",
    "jSMALL LETTER SOFT EMjCAPITAL LETTER MONOCULAR OjSMALL LETTER MONOCULAR O",
    "jCAPITAL LETTER BINOCULAR OjSMALL LETTER BINOCULAR OjCAPITAL LETTER DOUBLE MONOCULAR O",
    "jSMALL LETTER DOUBLE MONOCULAR OjLETTER MULTIOCULAR ObOMBINING CYRILLIC VZMET",
    "tTEN MILLIONS SIGNtHUNDRED MILLIONS SIGNtTHOUSAND MILLIONS SIGNaSLAVONIC ASTERISK",
    "aCOMBINING CYRILLIC LETTER UKRAINIAN IEbaIbaYIbaUbaHARD SIGNbaYERUbaSOFT SIGNbaOMEGAtKAVYKA",
    "tPAYEROKbYRILLIC KAVYKAjPAYEROKjCAPITAL LETTER DWEjSMALL LETTER DWEjCAPITAL LETTER DZWE",
    "jSMALL LETTER DZWEjCAPITAL LETTER ZHWEjSMALL LETTER ZHWEjCAPITAL LETTER CCHE",
    "jSMALL LETTER CCHEjCAPITAL LETTER DZZEjSMALL LETTER DZZEjCAPITAL LETTER TE WITH MIDDLE HOOK",
    "jSMALL LETTER TE WITH MIDDLE HOOKjCAPITAL LETTER TWEjSMALL LETTER TWEjCAPITAL LETTER TSWE",
    "jSMALL LETTER TSWEjCAPITAL LETTER TSSEjSMALL LETTER TSSEjCAPITAL LETTER TCHE",
    "jSMALL LETTER TCHEjCAPITAL LETTER HWEjSMALL LETTER HWEjCAPITAL LETTER SHWEjSMALL LETTER SHWE",
    "jCAPITAL LETTER DOUBLE OjSMALL LETTER DOUBLE OjCAPITAL LETTER CROSSED O",
    "jSMALL LETTER CROSSED OaMODIFIER LETTER CYRILLIC HARD SIGNzSOFT SIGN",
    "aCOMBINING CYRILLIC LETTER EFbaIOTIFIED EaBAMUM LETTER AnKAnUnKUnEEnREEnTAEnOnNYInInLAnPAnRII",
    "pEEnLEEEEnMEEEEnTAAnNDAAoJAEMnMnSUUnMUnSHIIoIoHEUXoEUXnKYEEoETnNUAEp+1oJUAEnYOQnSHUnYUQoA",
    "nNSHAnKEUXnPEUXnNJEEoTEEnPUEnWUEnPEEnFEEnRUnLUnMInNInREUXoAEnKENnNGKWAENpGApAnSHOnPUAEnFUoOM",
    "nWAnNAnLInPInLOQnKOnMBENnRENnMENoAnTInKInMOoBAAnTETnKPAnTENnNTUUnSAMBAnFAAMAEnKOVUUpGHOM",
    "gCOMBINING MARK KOQNDONvTUKWENTISgNJAEMLIgFULL STOPgCOLONiMMAgSEMICOLONgQUESTION MARK",
    "+9aMODIFIER LETTER CHINESE TONE YIN PINGbeANG PINGbeIN SHANGbeANG SHANGbeIN QUbeANG QUbeIN RU",
    "beANG RUqEXTRA-HIGH DOTTED TONE BARqHIGH DOTTED TONE BARqMID DOTTED TONE BAR",
    "qLOW DOTTED TONE BARqEXTRA-LOW DOTTED TONE BARwHIGH DOTTED LEFT-STEM TONE BAR",
    "qHIGH DOTTED LEFT-STEM TONE BARqMID DOTTED LEFT-STEM TONE BARqLOW DOTTED LEFT-STEM TONE BAR",
    "qEXTRA-LOW DOTTED LEFT-STEM TONE BARwHIGH LEFT-STEM TONE BARqHIGH LEFT-STEM TONE BAR",
    "qMID LEFT-STEM TONE BARqLOW LEFT-STEM TONE BARqEXTRA-LOW LEFT-STEM TONE BARqDOT VERTICAL BAR",
    "uSLASHuHORIZONTAL BARqLOWER RIGHT CORNER ANGLEqRAISED UP ARROWxDOWN ARROWxEXCLAMATION MARK",
    "xINVERTED EXCLAMATION MARKqLOW INVERTED EXCLAMATION MARKqSTRESS AND HIGH TONEbbLOW TONE",
    "aLATIN CAPITAL LETTER EGYPTOLOGICAL ALEFgSMALL LETTER EGYPTOLOGICAL ALEF",
    "gCAPITAL LETTER EGYPTOLOGICAL AINgSMALL LETTER EGYPTOLOGICAL AINgCAPITAL LETTER HENG",
    "gSMALL LETTER HENGgCAPITAL LETTER TZgSMALL LETTER TZgCAPITAL LETTER TRESILLO",
    "gSMALL LETTER TRESILLOgCAPITAL LETTER CUATRILLOgSMALL LETTER CUATRILLO",
    "gCAPITAL LETTER CUATRILLO WITH COMMAgSMALL LETTER CUATRILLO WITH COMMAgLETTER SMALL CAPITAL F",
    "bbSgCAPITAL LETTER AAgSMALL LETTER AAgCAPITAL LETTER AOgSMALL LETTER AOgCAPITAL LETTER AU",
    "gSMALL LETTER AUgCAPITAL LETTER AVgSMALL LETTER AVgCAPITAL LETTER AV WITH HORIZONTAL BAR",
    "gSMALL LETTER AV WITH HORIZONTAL BARgCAPITAL LETTER AYgSMALL LETTER AY",
    "gCAPITAL LETTER REVERSED C WITH DOTgSMALL LETTER REVERSED C WITH DOT",
    "gCAPITAL LETTER K WITH STROKEgSMALL LETTER K WITH STROKE",
    "gCAPITAL LETTER K WITH DIAGONAL STROKEgSMALL LETTER K WITH DIAGONAL STROKE",
    "gCAPITAL LETTER K WITH STROKE AND DIAGONAL STROKE",
    "gSMALL LETTER K WITH STROKE AND DIAGONAL STROKEgCAPITAL LETTER BROKEN LgSMALL LETTER BROKEN L",
    "gCAPITAL LETTER L WITH HIGH STROKEgSMALL LETTER L WITH HIGH STROKE",
    "gCAPITAL LETTER O WITH LONG STROKE OVERLAYgSMALL LETTER O WITH LONG STROKE OVERLAY",
    "gCAPITAL LETTER O WITH LOOPgSMALL LETTER O WITH LOOPgCAPITAL LETTER OOgSMALL LETTER OO",
    "gCAPITAL LETTER P WITH STROKE THROUGH DESCENDERgSMALL LETTER P WITH STROKE THROUGH DESCENDER",
    "gCAPITAL LETTER P WITH FLOURISHgSMALL LETTER P WITH FLOURISH",
    "gCAPITAL LETTER P WITH SQUIRREL TAILgSMALL LETTER P WITH SQUIRREL TAIL",
    "gCAPITAL LETTER Q WITH STROKE THROUGH DESCENDERgSMALL LETTER Q WITH STROKE THROUGH DESCENDER",
    "gCAPITAL LETTER Q WITH DIAGONAL STROKEgSMALL LETTER Q WITH DIAGONAL STROKE",
    "gCAPITAL LETTER R ROTUNDAgSMALL LETTER R ROTUNDAgCAPITAL LETTER RUM ROTUNDA",
    "gSMALL LETTER RUM ROTUNDAgCAPITAL LETTER V WITH DIAGONAL STROKE",
    "gSMALL LETTER V WITH DIAGONAL STROKEgCAPITAL LETTER VYgSMALL LETTER VY",
    "gCAPITAL LETTER VISIGOTHIC ZgSMALL LETTER VISIGOTHIC ZgCAPITAL LETTER THORN WITH STROKE",
    "gSMALL LETTER THORN WITH STROKEgCAPITAL LETTER THORN WITH STROKE THROUGH DESCENDER",
    "gSMALL LETTER THORN WITH STROKE THROUGH DESCENDERgCAPITAL LETTER VENDgSMALL LETTER VEND",
    "gCAPITAL LETTER ETgSMALL LETTER ETgCAPITAL LETTER ISgSMALL LETTER ISgCAPITAL LETTER CON",
    "gSMALL LETTER CONaMODIFIER LETTER USaLATIN SMALL LETTER DUMtLUMtMUMtNUMtRUM",
    "gLETTER SMALL CAPITAL RUMgSMALL LETTER TUMtUMgCAPITAL LETTER INSULAR DgSMALL LETTER INSULAR D",
    "gCAPITAL LETTER INSULAR FgSMALL LETTER INSULAR FgCAPITAL LETTER INSULAR GvTURNED INSULAR G",
    "gSMALL LETTER TURNED INSULAR GgCAPITAL LETTER TURNED LgSMALL LETTER TURNED L",
    "gCAPITAL LETTER INSULAR RgSMALL LETTER INSULAR RgCAPITAL LETTER INSULAR S",
    "gSMALL LETTER INSULAR SgCAPITAL LETTER INSULAR TgSMALL LETTER INSULAR T",
    "aMODIFIER LETTER LOW CIRCUMFLEX ACCENTqCOLONqSHORT EQUALS SIGNaLATIN CAPITAL LETTER SALTILLO",
    "gSMALL LETTER SALTILLOgCAPITAL LETTER TURNED HgSMALL LETTER L WITH RETROFLEX HOOK AND BELT",
    "gLETTER SINOLOGICAL DOTgCAPITAL LETTER N WITH DESCENDERgSMALL LETTER N WITH DESCENDER",
    "gCAPITAL LETTER C WITH BARgSMALL LETTER C WITH BARbaPALATAL HOOKtH WITH PALATAL HOOK",
    "gCAPITAL LETTER B WITH FLOURISHgSMALL LETTER B WITH FLOURISHgCAPITAL LETTER F WITH STROKE",
    "gSMALL LETTER F WITH STROKEgCAPITAL LETTER VOLAPUK AEgSMALL LETTER VOLAPUK AE",
    "gCAPITAL LETTER VOLAPUK OEgSMALL LETTER VOLAPUK OEgCAPITAL LETTER VOLAPUK UE",
    "gSMALL LETTER VOLAPUK UEgCAPITAL LETTER G WITH OBLIQUE STROKE",
    "gSMALL LETTER G WITH OBLIQUE STROKEgCAPITAL LETTER K WITH OBLIQUE STROKE",
    "gSMALL LETTER K WITH OBLIQUE STROKEgCAPITAL LETTER N WITH OBLIQUE STROKE",
    "gSMALL LETTER N WITH OBLIQUE STROKEgCAPITAL LETTER R WITH OBLIQUE STROKE",
    "gSMALL LETTER R WITH OBLIQUE STROKEgCAPITAL LETTER S WITH OBLIQUE STROKE",
    "gSMALL LETTER S WITH OBLIQUE STROKEgCAPITAL LETTER H WITH HOOKvREVERSED OPEN EvSCRIPT G",
    "vL WITH BELTvSMALL CAPITAL IgLETTER SMALL CAPITAL QgCAPITAL LETTER TURNED KbcT",
    "vJ WITH CROSSED-TAILvCHIvBETAgSMALL LETTER BETAgCAPITAL LETTER OMEGAgSMALL LETTER OMEGA",
    "gCAPITAL LETTER U WITH STROKEgSMALL LETTER U WITH STROKEgCAPITAL LETTER GLOTTAL A",
    "gSMALL LETTER GLOTTAL AgCAPITAL LETTER GLOTTAL IgSMALL LETTER GLOTTAL I",
    "gCAPITAL LETTER GLOTTAL UgSMALL LETTER GLOTTAL UgCAPITAL LETTER OLD POLISH O",
    "gSMALL LETTER OLD POLISH OgCAPITAL LETTER ANGLICANA WgSMALL LETTER ANGLICANA W",
    "gCAPITAL LETTER C WITH PALATAL HOOKvS WITH HOOKvZ WITH PALATAL HOOK",
    "vD WITH SHORT STROKE OVERLAYgSMALL LETTER D WITH SHORT STROKE OVERLAY",
    "gCAPITAL LETTER S WITH SHORT STROKE OVERLAYgSMALL LETTER S WITH SHORT STROKE OVERLAY",
    "+6gCAPITAL LETTER CLOSED INSULAR GgSMALL LETTER CLOSED INSULAR G+2tDOUBLE THORN+2baWYNN",
    "gCAPITAL LETTER MIDDLE SCOTS SgSMALL LETTER MIDDLE SCOTS SgCAPITAL LETTER SIGMOID S",
    "gSMALL LETTER SIGMOID S+25aMODIFIER LETTER CAPITAL CyFyQaLATIN CAPITAL LETTER REVERSED HALF H",
    "gSMALL LETTER REVERSED HALF HgEPIGRAPHIC LETTER SIDEWAYS I",
    "aMODIFIER LETTER CAPITAL H WITH STROKEqSMALL LIGATURE OEaLATIN LETTER SMALL CAPITAL TURNED M",
    "gEPIGRAPHIC LETTER REVERSED FbhPyINVERTED Mz LONGAyARCHAIC MaSYLOTI NAGRI LETTER AuI",
    "nSIGN DVISVARAnLETTER UuEuOnSIGN HASANTAnLETTER KOvHOuGOvHOnSIGN ANUSVARAnLETTER COvHOuJOvHO",
    "uTTOwHOuDDOwHOuTOvHOuDOvHOuNOuPOvHOuBOvHOuMOuROuLOuRROuSOuHOnVOWEL SIGN AyIyUyEyOO",
    "nPOETRY MARK-1z2z3z4nSIGN ALTERNATE HASANTA+4aNORTH INDIC FRACTION ONE QUARTERzHALF",
    "vTHREE QUARTERSvONE SIXTEENTHzEIGHTHvTHREE SIXTEENTHSmQUARTER MARKmPLACEHOLDER MARK",
    "mRUPEE MARKmQUANTITY MARK+7aPHAGS-PA LETTER KArHAqGAqNGAqCArHAqJAqNYAqTArHAqDAqNAqPArHAqBAqMA",
    "qTSAsHAqDZAqWAqZHArAqSMALL AqYAqRAqLAqSHArAqHAqAqIqUqEqOqQAqXAqFAqGGAqEEjSUBJOINED LETTER WA",
    "baYAjLETTER TTAsHAqDDAqNNAqALTERNATE YAqVOICELESS SHAvD HAqASPIRATED FAjSUBJOINED LETTER RA",
    "lPERFIXED LETTER RAjLETTER CANDRABINDUjSINGLE HEAD MARKjDOUBLE HEAD MARKjMARK SHAD",
    "oDOUBLE SHAD+9aSAURASHTRA SIGN ANUSVARAqVISARGAlLETTER AtAsItIsUtUsVOCALIC RbbRbaLbbLsEtEsAI",
    "sOtOsAUsKAtHAsGAtHAsNGAsCAtHAsJAtHAsNYAsTTAuHAsDDAuHAsNNAsTAtHAsDAtHAsNAsPAtHAsBAtHAsMAsYAsRA",
    "sLAsVAsSHAtSAtAsHAsLLAlCONSONANT SIGN HAARUlVOWEL SIGN AAwIxIwUxUwVOCALIC RbfRbeLbfLwExEwAIwO",
    "xOwAUlSIGN VIRAMAqCANDRABINDU+9lDANDAmOUBLE DANDAmIGIT ZEROrONErTWOsHREErFOURsIVErSIXsEVEN",
    "rEIGHTrNINE+7aCOMBINING DEVANAGARI DIGIT ZERObbONEbbTWObcHREEbbFOURbcIVEbbSIXbcEVENbbEIGHT",
    "bbNINEvLETTER AbcUbcKAbcNAbcPAbcRAbcVIvSIGN AVAGRAHAaDEVANAGARI SIGN SPACING CANDRABINDU",
    "qCANDRABINDU VIRAMAqDOUBLE CANDRABINDU VIRAMAqCANDRABINDU TWObdHREEbcAVAGRAHAqPUSHPIKA",
    "lGAP FILLERlCARETlHEADSTROKElSIGN SIDDHAMlJAIN OMlLETTER AYlVOWEL SIGN AYaKAYAH LI DIGIT ZERO",
    "pONEpTWOqHREEpFOURqIVEpSIXqEVENpEIGHTpNINEjLETTER KArHAqGAqNGAqSArHAqZAqNYAqTAqHTAqNAqPArHA",
    "qMAqDAqBAqRAqYAqLAqWAqTHAqHAqVAqCAqAqOEqIqOOjVOWEL UEpEpUpEEpOjTONE PLOPHUoCALYAt PLOPHU",
    "jSIGN CWIoSHYAaREJANG LETTER KAoGAoNGAoTAoDAoNAoPAoBAoMAoCAoJAoNYAoSAoRAoLAoYAoWAoHAoMBAoNGGA",
    "pDApYJAoAhVOWEL SIGN IsUsEsAIsOsAUsEUtAhCONSONANT SIGN NGx+1wRwHhVIRAMA+12hSECTION MARK",
    "aHANGUL CHOSEONG TIKEUT-MIEUMxPIEUPxSIOSxCIEUCqRIEUL-KIYEOKwSSANGKIYEOKwTIKEUTwSSANGTIKEUT",
    "wMIEUMwPIEUPwSSANGPIEUPwKAPYEOUNPIEUPwSIOSwCIEUCwKHIEUKHqMIEUM-KIYEOKwTIKEUTwSIOS",
    "qPIEUP-SIOS-THIEUTHwKHIEUKHwHIEUHqSSANGSIOS-PIEUPqIEUNG-RIEULwHIEUHqSSANGCIEUC-HIEUHvTHIEUTH",
    "qPHIEUPH-HIEUHqHIEUH-SIOSqSSANGYEORINHIEUH+4aJAVANESE SIGN PANYANGGAoCECAKoLAYARoWIGNYAN",
    "jLETTER AqI KAWIr+1rIqUqPA CEREKqNGA LELETz RASWADIqEqAIqOqKAs SASAKtMURDAqGAs MURDAqNGAqCA",
    "s MURDAqJAqNYA MURDAqJA MAHAPRANAqNYAqTTAt MAHAPRANAqDDAt MAHAPRANAqNA MURDAqTAs MURDAqDA",
    "s MAHAPRANAqNAqPAs MURDAqBAs MURDAqMAqYAqRAs AGUNGqLAqWAqSA MURDAuAHAPRANAs+1qHA",
    "jSIGN CECAK TELUjVOWEL SIGN TARUNGvOLONGuWULUy MELIKuSUKUy MENDUTuTALINGuDIRGA MUREuPEPET",
    "jCONSONANT SIGN KERETyPENGKALyCAKRAjPANGKONjLEFT RERENGGANjRIGHT RERENGGANjPADA ANDAPoMADYA",
    "oLUHURoWINDUoPANGKAToLINGSApUNGSIoADEGs ADEGoPISELEHjTURNED PADA PISELEH+2jPANGRANGKEP",
    "jDIGIT ZEROpONEpTWOqHREEpFOURqIVEpSIXqEVENpEIGHTpNINE+5jPADA TIRTA TUMETESoISEN-ISEN",
    "aMYANMAR LETTER SHAN GHAuCHAuJHAuNNAuBHAiSIGN SHAN SAWiMODIFIER LETTER SHAN REDUPLICATION",
    "iLETTER TAI LAING NYAzFAzGAbaHAzJAbaHAzDDAbbHAzNNAiTAI LAING DIGIT ZEROyONEyTWOzHREEyFOURzIVE",
    "ySIXzEVENyEIGHTyNINEiLETTER TAI LAING LLAzDAbaHAzBAbaHA+2aCHAM LETTER AmImUmEmAImOmKAnHAmGA",
    "nHAmNGUEoAmCHAoHAmJAnHAmNHUEoAoJAmTAnHAmDAnHAmNUEnAmDDAmPAnPAnHAmBAnHAmMUEnAmBBAmYAmRAmLAmVA",
    "mSSAnAmHAfVOWEL SIGN AAqIrIqEIqUqOEr+1qAIrUqUEfCONSONANT SIGN YAuRAuLAuWA+10fLETTER FINAL KsG",
    "sNGfCONSONANT SIGN FINAL NGfLETTER FINAL CHsTsNsPsYsRsLsSSfCONSONANT SIGN FINAL MbaH",
    "+3fDIGIT ZEROlONElTWOmHREElFOURmIVElSIXmEVENlEIGHTlNINE+3fPUNCTUATION SPIRALrDANDA",
    "sOUBLE DANDArTRIPLE DANDAaMYANMAR LETTER KHAMTI GAwCAxHAwJAxHAwNYAwTTAyHAwDDAyHAxHAwNAwSAwHA",
    "xHA+0wLLAwFAiMODIFIER LETTER KHAMTI REDUPLICATIONiLETTER KHAMTI XAwZAwRAjOGOGRAM KHAMTI OAY",
    "yQNyHMiSYMBOL AITON EXCLAMATIONvONEvTWOiLETTER AITON RAiSIGN PAO KAREN TONEnTAI LAING TONE-2",
    "bc5iLETTER SHWE PALAUNG CHAbcSHAaTAI VIET LETTER LOW KOqHIGH KOqLOW KHOqHIGH KHOqLOW KHHO",
    "qHIGH KHHOqLOW GOqHIGH GOqLOW NGOqHIGH NGOqLOW COqHIGH COqLOW CHOqHIGH CHOqLOW SOqHIGH SO",
    "qLOW NYOqHIGH NYOqLOW DOqHIGH DOqLOW TOqHIGH TOqLOW THOqHIGH THOqLOW NOqHIGH NOqLOW BO",
    "qHIGH BOqLOW POqHIGH POqLOW PHOqHIGH PHOqLOW FOqHIGH FOqLOW MOqHIGH MOqLOW YOqHIGH YOqLOW RO",
    "qHIGH ROqLOW LOqHIGH LOqLOW VOqHIGH VOqLOW HOqHIGH HOqLOW OqHIGH OjMAI KANGjVOWEL AApIpUEq",
    "+1pEpOjMAI KHITjVOWEL IApUEAqApAUEqYqNqMjTONE MAI EKsNUENGsTHOsSONG+25jSYMBOL KONqNUENGqSAM",
    "qHO HOIqKOI KOIaMEETEI MAYEK LETTER EuOuCHAuNYAuTTAwHAuDDAwHAuNNAuSHAvSAnVOWEL SIGN IIyUUyAAI",
    "zUzAUnCHEIKHANnAHANG KHUDAMoNJInSYLLABLE REPETITION MARKnWORD REPETITION MARK",
    "nVOWEL SIGN VISARGAoIRAMA+11aETHIOPIC SYLLABLE TTHUvIvAAvEEw+1vO+3sDDHUvIvAAvEEw+1vO+3tZUuI",
    "uAAuEEv+1uO+10sCCHHAwUwIwAAwEEx+1wO+2sBBAuUuIuAAuEEv+1uO+2aLATIN SMALL LETTER BARRED ALPHA",
    "tA REVERSED-SCHWAtBLACKLETTER EuARRED EtE WITH FLOURISHtLENIS FtSCRIPT G WITH CROSSED-TAIL",
    "tL WITH INVERTED LAZY SbaDOUBLE MIDDLE TILDEbaMIDDLE RINGtM WITH CROSSED-TAIL",
    "tN WITH CROSSED-TAILtENG WITH CROSSED-TAILtBLACKLETTER Obg WITH STROKEtOPEN O WITH STROKE",
    "tINVERTED OEtTURNED OE WITH STROKEbiHORIZONTAL STROKEbb OPEN-Obi WITH STROKEtSTIRRUP R",
    "gLETTER SMALL CAPITAL R WITH RIGHT LEGgSMALL LETTER R WITHOUT HANDLEtDOUBLE R",
    "tR WITH CROSSED-TAILtDOUBLE R WITH CROSSED-TAILtSCRIPT Rbb WITH RINGtBASELINE ESH",
    "tU WITH SHORT RIGHT LEGvBAR WITH SHORT RIGHT LEGuItTURNED UItU WITH LEFT HOOKtCHI",
    "w WITH LOW RIGHT RINGbgLEFT SERIFtX WITH LOW RIGHT RINGbcNG LEFT LEGbn AND LOW RIGHT RING",
    "boWITH SERIFtY WITH SHORT RIGHT LEGaMODIFIER BREVE WITH INVERTED BREVEjLETTER SMALL HENG",
    "wL WITH INVERTED LAZY SbdMIDDLE TILDEwU WITH LEFT HOOKaLATIN SMALL LETTER SAKHA YAT",
    "tIOTIFIED EtOPEN OEtUOtINVERTED ALPHAaGREEK LETTER SMALL CAPITAL OMEGA",
    "aLATIN SMALL LETTER DZ DIGRAPH WITH RETROFLEX HOOKtTS DIGRAPH WITH RETROFLEX HOOK",
    "uURNED R WITH MIDDLE TILDEaMODIFIER LETTER SMALL TURNED WqLEFT TACKqRIGHT TACK",
    "+5aCHEROKEE SMALL LETTER AwEwIwOwUwVwGAwKAwGExIxOxUxVwHAxExIxOxUxVwLAxExIxOxUxVwMAxExIxOxUwNA",
    "wHNAwNAHxExIxOxUxVwQUAyEyIyOyUyVwSAx+1xExIxOxUxVwDAwTAwDEwTEwDIwTIwDOxUxVxLAwTLAyEyIyOyUyVxSA",
    "yEyIyOyUyVwWAxExIxOxUxVwYAaMEETEI MAYEK LETTER KOKuSAMuLAIuMITuPAuNAuCHILuTILuKHOUuNGOUuTHOU",
    "uWAIuYANGuHUKuUNuIuPHAMuATIYAuGOKuJHAMuRAIuBAuJILuDILuGHOUuDHOUuBHAMuKOK LONSUMuLAI LONSUM",
    "uMIT LONSUMuPA LONSUMuNA LONSUMuTIL LONSUMuNGOU LONSUMuI LONSUMnVOWEL SIGN ONAPyINAPyANAP",
    "yYENAPySOUNAPyUNAPyCHEINAPyNUNGnCHEIKHEInLUM IYEKnAPUN IYEK+3nDIGIT ZEROtONEtTWOuHREEtFOUR",
    "uIVEtSIXuEVENtEIGHTtNINE+11191aHANGUL JUNGSEONG O-YEOtO-IrYO-AvEuEOrU-YEOtI-IrYU-AEuOrEU-AuEO",
    "v+1uOrI-YA-OvEuEOv+1tO-ItYOuUtIrARAEA-AxE+5iONGSEONG NIEUN-RIEULxCHIEUCHrSSANGTIKEUTbc-PIEUP",
    "rTIKEUT-PIEUPySIOSbc-KIYEOKyCIEUCzHIEUCHyTHIEUTHrRIEUL-SSANGKIYEOKxKIYEOK-HIEUH",
    "rSSANGRIEUL-KHIEUKHrRIEUL-MIEUM-HIEUHxPIEUP-TIKEUTbdPHIEUPHxYESIEUNGzORINHIEUH-HIEUH",
    "rKAPYEOUNRIEULrMIEUM-NIEUNxSSANGNIEUNrSSANGMIEUMrMIEUM-PIEUP-SIOSxCIEUCrPIEUP-TIKEUT",
    "xRIEUL-PHIEUPHxMIEUMrSSANGPIEUPrPIEUP-SIOS-TIKEUTxCIEUCyHIEUCHrSIOS-MIEUMwKAPYEOUNPIEUP",
    "sSANGSIOS-KIYEOKbbTIKEUTsIOS-PANSIOSwCIEUCxHIEUCHwTHIEUTHwHIEUHrPANSIOS-PIEUPzKAPYEOUNPIEUP",
    "rYESIEUNG-MIEUMbaHIEUHrCIEUC-PIEUPxSSANGPIEUPrSSANGCIEUCrPHIEUPH-SIOSzTHIEUTH",
    "+8965aLATIN SMALL LIGATURE FFwIwLwFIxLvLONG S TvST+13aARMENIAN SMALL LIGATURE MEN NOWbcECH",
    "bcINIyVEW NOWyMEN XEH+6aHEBREW LETTER YOD WITH HIRIQhPOINT JUDEO-SPANISH VARIKA",
    "hLIGATURE YIDDISH YOD YOD PATAHiETTER ALTERNATIVE AYINoWIDE ALEFtDALETtHEtKAFtLAMEDtFINAL MEM",
    "tRESHtTAVoALTERNATIVE PLUS SIGNoSHIN WITH SHIN DOTzIN DOTyDAGESH AND SHIN DOTbkIN DOT",
    "oALEF WITH PATAHyQAMATSyMAPIQoBET WITH DAGESHoGIMEL WITH DAGESHoDALET WITH DAGESH",
    "oHE WITH MAPIQoVAV WITH DAGESHoZAYIN WITH DAGESH+2oTET WITH DAGESHoYOD WITH DAGESH",
    "oFINAL KAF WITH DAGESHoKAF WITH DAGESHoLAMED WITH DAGESH+2oMEM WITH DAGESH+2oNUN WITH DAGESH",
    "oSAMEKH WITH DAGESH+2oFINAL PE WITH DAGESHoPE WITH DAGESH+2oTSADI WITH DAGESHoQOF WITH DAGESH",
    "oRESH WITH DAGESHoSHIN WITH DAGESHoTAV WITH DAGESHoVAV WITH HOLAMoBET WITH RAFEoKAF WITH RAFE",
    "oPE WITH RAFEiIGATURE ALEF LAMEDaARABIC LETTER ALEF WASLA ISOLATED FORMzFINAL FORM",
    "oBEEH ISOLATED FORMtFINAL FORMtINITIAL FORMtMEDIAL FORMoPEH ISOLATED FORMsFINAL FORM",
    "sINITIAL FORMsMEDIAL FORMoBEHEH ISOLATED FORMuFINAL FORMuINITIAL FORMuMEDIAL FORM",
    "oTTEHEH ISOLATED FORMvFINAL FORMvINITIAL FORMvMEDIAL FORMpEHEH ISOLATED FORMuFINAL FORM",
    "uINITIAL FORMuMEDIAL FORMpTEH ISOLATED FORMtFINAL FORMtINITIAL FORMtMEDIAL FORM",
    "oVEH ISOLATED FORMsFINAL FORMsINITIAL FORMsMEDIAL FORMoPEHEH ISOLATED FORMuFINAL FORM",
    "uINITIAL FORMuMEDIAL FORMoDYEH ISOLATED FORMtFINAL FORMtINITIAL FORMtMEDIAL FORM",
    "oNYEH ISOLATED FORMtFINAL FORMtINITIAL FORMtMEDIAL FORMoTCHEH ISOLATED FORMuFINAL FORM",
    "uINITIAL FORMuMEDIAL FORMtEH ISOLATED FORMwFINAL FORMwINITIAL FORMwMEDIAL FORM",
    "oDDAHAL ISOLATED FORMvFINAL FORMpAHAL ISOLATED FORMuFINAL FORMpUL ISOLATED FORMsFINAL FORM",
    "pDAL ISOLATED FORMtFINAL FORMoJEH ISOLATED FORMsFINAL FORMoRREH ISOLATED FORMtFINAL FORM",
    "oKEHEH ISOLATED FORMuFINAL FORMuINITIAL FORMuMEDIAL FORMoGAF ISOLATED FORMsFINAL FORM",
    "sINITIAL FORMsMEDIAL FORMpUEH ISOLATED FORMtFINAL FORMtINITIAL FORMtMEDIAL FORM",
    "oNGOEH ISOLATED FORMuFINAL FORMuINITIAL FORMuMEDIAL FORMpOON GHUNNA ISOLATED FORMbaFINAL FORM",
    "oRNOON ISOLATED FORMuFINAL FORMuINITIAL FORMuMEDIAL FORMoHEH WITH YEH ABOVE ISOLATED FORM",
    "bhFINAL FORMsGOAL ISOLATED FORMxFINAL FORMxINITIAL FORMxMEDIAL FORMsDOACHASHMEE ISOLATED FORM",
    "beFINAL FORMbeINITIAL FORMbeMEDIAL FORMoYEH BARREE ISOLATED FORMzFINAL FORM",
    "zWITH HAMZA ABOVE ISOLATED FORMbqFINAL FORMhSYMBOL DOT ABOVEsBELOWoTWO DOTS ABOVExBELOW",
    "pHREE DOTS ABOVEzBELOWzPOINTING DOWNWARDS ABOVEbsBELOWoFOUR DOTS ABOVEyBELOW",
    "oDOUBLE VERTICAL BAR BELOWoTWO DOTS VERTICALLY ABOVEbiBELOWoRINGoSMALL TAH ABOVEyBELOW",
    "oWASLA ABOVE+17hLETTER NG ISOLATED FORMrFINAL FORMrINITIAL FORMrMEDIAL FORMoU ISOLATED FORM",
    "qFINAL FORMoOE ISOLATED FORMrFINAL FORMoYU ISOLATED FORMrFINAL FORM",
    "oU WITH HAMZA ABOVE ISOLATED FORMoVE ISOLATED FORMrFINAL FORMoKIRGHIZ OE ISOLATED FORM",
    "zFINAL FORMwYU ISOLATED FORMzFINAL FORMoE ISOLATED FORMqFINAL FORMqINITIAL FORMqMEDIAL FORM",
    "oUIGHUR KAZAKH KIRGHIZ ALEF MAKSURA INITIAL FORMbxMEDIAL FORM",
    "iIGATURE YEH WITH HAMZA ABOVE WITH ALEF ISOLATED FORMbvFINAL FORMbrE ISOLATED FORM",
    "btFINAL FORMbqWAW ISOLATED FORMbuFINAL FORMbqU ISOLATED FORMbsFINAL FORMbqOE ISOLATED FORM",
    "btFINAL FORMbqYU ISOLATED FORMbtFINAL FORMbqE ISOLATED FORMbsFINAL FORMbsINITIAL FORM",
    "qUIGHUR KIRGHIZ YEH WITH HAMZA ABOVE WITH ALEF MAKSURA ISOLATED FORMcsFINAL FORM",
    "csINITIAL FORMiETTER FARSI YEH ISOLATED FORMyFINAL FORMyINITIAL FORMyMEDIAL FORM",
    "iIGATURE YEH WITH HAMZA ABOVE WITH JEEM ISOLATED FORMbqHAH ISOLATED FORMbqMEEM ISOLATED FORM",
    "bqALEF MAKSURA ISOLATED FORMbqYEH ISOLATED FORMqBEH WITH JEEM ISOLATED FORMzHAH ISOLATED FORM",
    "zKHAH ISOLATED FORMzMEEM ISOLATED FORMzALEF MAKSURA ISOLATED FORMzYEH ISOLATED FORM",
    "qTEH WITH JEEM ISOLATED FORMzHAH ISOLATED FORMzKHAH ISOLATED FORMzMEEM ISOLATED FORM",
    "zALEF MAKSURA ISOLATED FORMzYEH ISOLATED FORMrHEH WITH JEEM ISOLATED FORMbaMEEM ISOLATED FORM",
    "baALEF MAKSURA ISOLATED FORMbaYEH ISOLATED FORMqJEEM WITH HAH ISOLATED FORM",
    "baMEEM ISOLATED FORMqHAH WITH JEEM ISOLATED FORMzMEEM ISOLATED FORM",
    "qKHAH WITH JEEM ISOLATED FORMbaHAH ISOLATED FORMbaMEEM ISOLATED FORM",
    "qSEEN WITH JEEM ISOLATED FORMbaHAH ISOLATED FORMbaKHAH ISOLATED FORMbaMEEM ISOLATED FORM",
    "rAD WITH HAH ISOLATED FORMzMEEM ISOLATED FORMqDAD WITH JEEM ISOLATED FORMzHAH ISOLATED FORM",
    "zKHAH ISOLATED FORMzMEEM ISOLATED FORMqTAH WITH HAH ISOLATED FORMzMEEM ISOLATED FORM",
    "qZAH WITH MEEM ISOLATED FORMqAIN WITH JEEM ISOLATED FORMzMEEM ISOLATED FORM",
    "qGHAIN WITH JEEM ISOLATED FORMbbMEEM ISOLATED FORMqFEH WITH JEEM ISOLATED FORM",
    "zHAH ISOLATED FORMzKHAH ISOLATED FORMzMEEM ISOLATED FORMzALEF MAKSURA ISOLATED FORM",
    "zYEH ISOLATED FORMqQAF WITH HAH ISOLATED FORMzMEEM ISOLATED FORMzALEF MAKSURA ISOLATED FORM",
    "zYEH ISOLATED FORMqKAF WITH ALEF ISOLATED FORMzJEEM ISOLATED FORMzHAH ISOLATED FORM",
    "zKHAH ISOLATED FORMzLAM ISOLATED FORMzMEEM ISOLATED FORMzALEF MAKSURA ISOLATED FORM",
    "zYEH ISOLATED FORMqLAM WITH JEEM ISOLATED FORMzHAH ISOLATED FORMzKHAH ISOLATED FORM",
    "zMEEM ISOLATED FORMzALEF MAKSURA ISOLATED FORMzYEH ISOLATED FORMqMEEM WITH JEEM ISOLATED FORM",
    "baHAH ISOLATED FORMbaKHAH ISOLATED FORMbaMEEM ISOLATED FORMbaALEF MAKSURA ISOLATED FORM",
    "baYEH ISOLATED FORMqNOON WITH JEEM ISOLATED FORMbaHAH ISOLATED FORMbaKHAH ISOLATED FORM",
    "baMEEM ISOLATED FORMbaALEF MAKSURA ISOLATED FORMbaYEH ISOLATED FORM",
    "qHEH WITH JEEM ISOLATED FORMzMEEM ISOLATED FORMzALEF MAKSURA ISOLATED FORMzYEH ISOLATED FORM",
    "qYEH WITH JEEM ISOLATED FORMzHAH ISOLATED FORMzKHAH ISOLATED FORMzMEEM ISOLATED FORM",
    "zALEF MAKSURA ISOLATED FORMzYEH ISOLATED FORMqTHAL WITH SUPERSCRIPT ALEF ISOLATED FORM",
    "qREH WITH SUPERSCRIPT ALEF ISOLATED FORMqALEF MAKSURA WITH SUPERSCRIPT ALEF ISOLATED FORM",
    "qSHADDA WITH DAMMATAN ISOLATED FORMbcKASRATAN ISOLATED FORMbcFATHA ISOLATED FORM",
    "bcDAMMA ISOLATED FORMbcKASRA ISOLATED FORMbcSUPERSCRIPT ALEF ISOLATED FORM",
    "qYEH WITH HAMZA ABOVE WITH REH FINAL FORMbqZAIN FINAL FORMbqMEEM FINAL FORMbqNOON FINAL FORM",
    "bqALEF MAKSURA FINAL FORMbqYEH FINAL FORMqBEH WITH REH FINAL FORMzZAIN FINAL FORM",
    "zMEEM FINAL FORMzNOON FINAL FORMzALEF MAKSURA FINAL FORMzYEH FINAL FORM",
    "qTEH WITH REH FINAL FORMzZAIN FINAL FORMzMEEM FINAL FORMzNOON FINAL FORM",
    "zALEF MAKSURA FINAL FORMzYEH FINAL FORMrHEH WITH REH FINAL FORMbaZAIN FINAL FORM",
    "baMEEM FINAL FORMbaNOON FINAL FORMbaALEF MAKSURA FINAL FORMbaYEH FINAL FORM",
    "qFEH WITH ALEF MAKSURA FINAL FORMzYEH FINAL FORMqQAF WITH ALEF MAKSURA FINAL FORM",
    "zYEH FINAL FORMqKAF WITH ALEF FINAL FORMzLAM FINAL FORMzMEEM FINAL FORM",
    "zALEF MAKSURA FINAL FORMzYEH FINAL FORMqLAM WITH MEEM FINAL FORMzALEF MAKSURA FINAL FORM",
    "zYEH FINAL FORMqMEEM WITH ALEF FINAL FORMbaMEEM FINAL FORMqNOON WITH REH FINAL FORM",
    "baZAIN FINAL FORMbaMEEM FINAL FORMbaNOON FINAL FORMbaALEF MAKSURA FINAL FORMbaYEH FINAL FORM",
    "qALEF MAKSURA WITH SUPERSCRIPT ALEF FINAL FORMqYEH WITH REH FINAL FORMzZAIN FINAL FORM",
    "zMEEM FINAL FORMzNOON FINAL FORMzALEF MAKSURA FINAL FORMzYEH FINAL FORM",
    "zHAMZA ABOVE WITH JEEM INITIAL FORMbqHAH INITIAL FORMbqKHAH INITIAL FORMbqMEEM INITIAL FORM",
    "bqHEH INITIAL FORMqBEH WITH JEEM INITIAL FORMzHAH INITIAL FORMzKHAH INITIAL FORM",
    "zMEEM INITIAL FORMzHEH INITIAL FORMqTEH WITH JEEM INITIAL FORMzHAH INITIAL FORM",
    "zKHAH INITIAL FORMzMEEM INITIAL FORMzHEH INITIAL FORMrHEH WITH MEEM INITIAL FORM",
    "qJEEM WITH HAH INITIAL FORMbaMEEM INITIAL FORMqHAH WITH JEEM INITIAL FORMzMEEM INITIAL FORM",
    "qKHAH WITH JEEM INITIAL FORMbaMEEM INITIAL FORMqSEEN WITH JEEM INITIAL FORMbaHAH INITIAL FORM",
    "baKHAH INITIAL FORMbaMEEM INITIAL FORMrAD WITH HAH INITIAL FORMzKHAH INITIAL FORM",
    "zMEEM INITIAL FORMqDAD WITH JEEM INITIAL FORMzHAH INITIAL FORMzKHAH INITIAL FORM",
    "zMEEM INITIAL FORMqTAH WITH HAH INITIAL FORMqZAH WITH MEEM INITIAL FORM",
    "qAIN WITH JEEM INITIAL FORMzMEEM INITIAL FORMqGHAIN WITH JEEM INITIAL FORMbbMEEM INITIAL FORM",
    "qFEH WITH JEEM INITIAL FORMzHAH INITIAL FORMzKHAH INITIAL FORMzMEEM INITIAL FORM",
    "qQAF WITH HAH INITIAL FORMzMEEM INITIAL FORMqKAF WITH JEEM INITIAL FORMzHAH INITIAL FORM",
    "zKHAH INITIAL FORMzLAM INITIAL FORMzMEEM INITIAL FORMqLAM WITH JEEM INITIAL FORM",
    "zHAH INITIAL FORMzKHAH INITIAL FORMzMEEM INITIAL FORMzHEH INITIAL FORM",
    "qMEEM WITH JEEM INITIAL FORMbaHAH INITIAL FORMbaKHAH INITIAL FORMbaMEEM INITIAL FORM",
    "qNOON WITH JEEM INITIAL FORMbaHAH INITIAL FORMbaKHAH INITIAL FORMbaMEEM INITIAL FORM",
    "baHEH INITIAL FORMqHEH WITH JEEM INITIAL FORMzMEEM INITIAL FORMzSUPERSCRIPT ALEF INITIAL FORM",
    "qYEH WITH JEEM INITIAL FORMzHAH INITIAL FORMzKHAH INITIAL FORMzMEEM INITIAL FORM",
    "zHEH INITIAL FORMbaAMZA ABOVE WITH MEEM MEDIAL FORMbqHEH MEDIAL FORM",
    "qBEH WITH MEEM MEDIAL FORMzHEH MEDIAL FORMqTEH WITH MEEM MEDIAL FORMzHEH MEDIAL FORM",
    "rHEH WITH MEEM MEDIAL FORMbaHEH MEDIAL FORMqSEEN WITH MEEM MEDIAL FORMbaHEH MEDIAL FORM",
    "rHEEN WITH MEEM MEDIAL FORMbbHEH MEDIAL FORMqKAF WITH LAM MEDIAL FORMzMEEM MEDIAL FORM",
    "qLAM WITH MEEM MEDIAL FORMqNOON WITH MEEM MEDIAL FORMbaHEH MEDIAL FORM",
    "qYEH WITH MEEM MEDIAL FORMzHEH MEDIAL FORMqSHADDA WITH FATHA MEDIAL FORMbcDAMMA MEDIAL FORM",
    "bcKASRA MEDIAL FORMqTAH WITH ALEF MAKSURA ISOLATED FORMzYEH ISOLATED FORM",
    "qAIN WITH ALEF MAKSURA ISOLATED FORMzYEH ISOLATED FORMqGHAIN WITH ALEF MAKSURA ISOLATED FORM",
    "bbYEH ISOLATED FORMqSEEN WITH ALEF MAKSURA ISOLATED FORMbaYEH ISOLATED FORM",
    "rHEEN WITH ALEF MAKSURA ISOLATED FORMbbYEH ISOLATED FORMqHAH WITH ALEF MAKSURA ISOLATED FORM",
    "zYEH ISOLATED FORMqJEEM WITH ALEF MAKSURA ISOLATED FORMbaYEH ISOLATED FORM",
    "qKHAH WITH ALEF MAKSURA ISOLATED FORMbaYEH ISOLATED FORMqSAD WITH ALEF MAKSURA ISOLATED FORM",
    "zYEH ISOLATED FORMqDAD WITH ALEF MAKSURA ISOLATED FORMzYEH ISOLATED FORM",
    "qSHEEN WITH JEEM ISOLATED FORMbbHAH ISOLATED FORMbbKHAH ISOLATED FORMbbMEEM ISOLATED FORM",
    "bbREH ISOLATED FORMrEEN WITH REH ISOLATED FORMrAD WITH REH ISOLATED FORM",
    "qDAD WITH REH ISOLATED FORMqTAH WITH ALEF MAKSURA FINAL FORMzYEH FINAL FORM",
    "qAIN WITH ALEF MAKSURA FINAL FORMzYEH FINAL FORMqGHAIN WITH ALEF MAKSURA FINAL FORM",
    "bbYEH FINAL FORMqSEEN WITH ALEF MAKSURA FINAL FORMbaYEH FINAL FORM",
    "rHEEN WITH ALEF MAKSURA FINAL FORMbbYEH FINAL FORMqHAH WITH ALEF MAKSURA FINAL FORM",
    "zYEH FINAL FORMqJEEM WITH ALEF MAKSURA FINAL FORMbaYEH FINAL FORM",
    "qKHAH WITH ALEF MAKSURA FINAL FORMbaYEH FINAL FORMqSAD WITH ALEF MAKSURA FINAL FORM",
    "zYEH FINAL FORMqDAD WITH ALEF MAKSURA FINAL FORMzYEH FINAL FORMqSHEEN WITH JEEM FINAL FORM",
    "bbHAH FINAL FORMbbKHAH FINAL FORMbbMEEM FINAL FORMbbREH FINAL FORMrEEN WITH REH FINAL FORM",
    "rAD WITH REH FINAL FORMqDAD WITH REH FINAL FORMqSHEEN WITH JEEM INITIAL FORM",
    "bbHAH INITIAL FORMbbKHAH INITIAL FORMbbMEEM INITIAL FORMrEEN WITH HEH INITIAL FORM",
    "rHEEN WITH HEH INITIAL FORMqTAH WITH MEEM INITIAL FORMqSEEN WITH JEEM MEDIAL FORM",
    "baHAH MEDIAL FORMbaKHAH MEDIAL FORMrHEEN WITH JEEM MEDIAL FORMbbHAH MEDIAL FORM",
    "bbKHAH MEDIAL FORMqTAH WITH MEEM MEDIAL FORMqZAH WITH MEEM MEDIAL FORM",
    "qALEF WITH FATHATAN FINAL FORMbjISOLATED FORMaORNATE LEFT PARENTHESIShRIGHT PARENTHESIS",
    "aARABIC LIGATURE RAHIMAHU ALLAAHsDI ALLAAHU ANHbgAAbgUMbiAAbhNNAqSALLALLAAHU ALAYHI WA-AALIH",
    "qALAYHI AS-SALAAMwM AS-SALAAMxAA AS-SALAAMw AS-SALAATU WAS-SALAAMqQUDDISA SIRRAH",
    "qSALLALLAHU ALAYHI WAAALIHEE WA-SALLAMqALAYHAA AS-SALAAMqTABAARAKA WA-TAAALAA",
    "qRAHIMAHUM ALLAAHqTEH WITH JEEM WITH MEEM INITIAL FORMzHAH WITH JEEM FINAL FORMbnINITIAL FORM",
    "biMEEM INITIAL FORMzKHAH WITH MEEM INITIAL FORMzMEEM WITH JEEM INITIAL FORMbjHAH INITIAL FORM",
    "bjKHAH INITIAL FORMqJEEM WITH MEEM WITH HAH FINAL FORMboINITIAL FORM",
    "qHAH WITH MEEM WITH YEH FINAL FORMbjALEF MAKSURA FINAL FORM",
    "qSEEN WITH HAH WITH JEEM INITIAL FORMbaJEEM WITH HAH INITIAL FORMbkALEF MAKSURA FINAL FORM",
    "baMEEM WITH HAH FINAL FORMboINITIAL FORMbkJEEM INITIAL FORMbkMEEM FINAL FORMbpINITIAL FORM",
    "rAD WITH HAH WITH HAH FINAL FORMbmINITIAL FORMzMEEM WITH MEEM FINAL FORM",
    "rHEEN WITH HAH WITH MEEM FINAL FORMbpINITIAL FORMbbJEEM WITH YEH FINAL FORM",
    "bbMEEM WITH KHAH FINAL FORMbqINITIAL FORMblMEEM FINAL FORMbqINITIAL FORM",
    "qDAD WITH HAH WITH ALEF MAKSURA FINAL FORMzKHAH WITH MEEM FINAL FORMboINITIAL FORM",
    "qTAH WITH MEEM WITH HAH FINAL FORMbnINITIAL FORMbjMEEM INITIAL FORMbjYEH FINAL FORM",
    "qAIN WITH JEEM WITH MEEM FINAL FORMzMEEM WITH MEEM FINAL FORMboINITIAL FORM",
    "bjALEF MAKSURA FINAL FORMqGHAIN WITH MEEM WITH MEEM FINAL FORMblYEH FINAL FORM",
    "blALEF MAKSURA FINAL FORMqFEH WITH KHAH WITH MEEM FINAL FORMboINITIAL FORM",
    "qQAF WITH MEEM WITH HAH FINAL FORMbjMEEM FINAL FORMqLAM WITH HAH WITH MEEM FINAL FORM",
    "biYEH FINAL FORMbiALEF MAKSURA FINAL FORMzJEEM WITH JEEM INITIAL FORMboFINAL FORM",
    "zKHAH WITH MEEM FINAL FORMboINITIAL FORMzMEEM WITH HAH FINAL FORMbnINITIAL FORM",
    "qMEEM WITH HAH WITH JEEM INITIAL FORMbjMEEM INITIAL FORMbjYEH FINAL FORM",
    "baJEEM WITH HAH INITIAL FORMbkMEEM INITIAL FORMbaKHAH WITH JEEM INITIAL FORM",
    "bkMEEM INITIAL FORM+3baJEEM WITH KHAH INITIAL FORMqHEH WITH MEEM WITH JEEM INITIAL FORM",
    "bjMEEM INITIAL FORMqNOON WITH HAH WITH MEEM INITIAL FORMbjALEF MAKSURA FINAL FORM",
    "baJEEM WITH MEEM FINAL FORMbpINITIAL FORMbkALEF MAKSURA FINAL FORMbaMEEM WITH YEH FINAL FORM",
    "bkALEF MAKSURA FINAL FORMqYEH WITH MEEM WITH MEEM FINAL FORMboINITIAL FORM",
    "qBEH WITH KHAH WITH YEH FINAL FORMqTEH WITH JEEM WITH YEH FINAL FORMbjALEF MAKSURA FINAL FORM",
    "zKHAH WITH YEH FINAL FORMbjALEF MAKSURA FINAL FORMzMEEM WITH YEH FINAL FORM",
    "bjALEF MAKSURA FINAL FORMqJEEM WITH MEEM WITH YEH FINAL FORM",
    "baHAH WITH ALEF MAKSURA FINAL FORMbaMEEM WITH ALEF MAKSURA FINAL FORM",
    "qSEEN WITH KHAH WITH ALEF MAKSURA FINAL FORMrAD WITH HAH WITH YEH FINAL FORM",
    "rHEEN WITH HAH WITH YEH FINAL FORMqDAD WITH HAH WITH YEH FINAL FORM",
    "qLAM WITH JEEM WITH YEH FINAL FORMzMEEM WITH YEH FINAL FORMqYEH WITH HAH WITH YEH FINAL FORM",
    "zJEEM WITH YEH FINAL FORMzMEEM WITH YEH FINAL FORMqMEEM WITH MEEM WITH YEH FINAL FORM",
    "qQAF WITH MEEM WITH YEH FINAL FORMqNOON WITH HAH WITH YEH FINAL FORM",
    "qQAF WITH MEEM WITH HAH INITIAL FORMqLAM WITH HAH WITH MEEM INITIAL FORM",
    "qAIN WITH MEEM WITH YEH FINAL FORMqKAF WITH MEEM WITH YEH FINAL FORM",
    "qNOON WITH JEEM WITH HAH INITIAL FORMqMEEM WITH KHAH WITH YEH FINAL FORM",
    "qLAM WITH JEEM WITH MEEM INITIAL FORMqKAF WITH MEEM WITH MEEM FINAL FORM",
    "qLAM WITH JEEM WITH MEEM FINAL FORMqNOON WITH JEEM WITH HAH FINAL FORM",
    "qJEEM WITH HAH WITH YEH FINAL FORMqHAH WITH JEEM WITH YEH FINAL FORM",
    "qMEEM WITH JEEM WITH YEH FINAL FORMqFEH WITH MEEM WITH YEH FINAL FORM",
    "qBEH WITH HAH WITH YEH FINAL FORMqKAF WITH MEEM WITH MEEM INITIAL FORM",
    "qAIN WITH JEEM WITH MEEM INITIAL FORMqSAD WITH MEEM WITH MEEM INITIAL FORM",
    "rEEN WITH KHAH WITH YEH FINAL FORMqNOON WITH JEEM WITH YEH FINAL FORM+8qSALAAMUHU ALAYNAA",
    "+33tLA USED AS KORANIC STOP SIGN ISOLATED FORMqQALA USED AS KORANIC STOP SIGN ISOLATED FORM",
    "qALLAH ISOLATED FORMrKBAR ISOLATED FORMqMOHAMMAD ISOLATED FORMqSALAM ISOLATED FORM",
    "qRASOUL ISOLATED FORMqALAYHE ISOLATED FORMqWASALLAM ISOLATED FORMqSALLA ISOLATED FORM",
    "vLLAHOU ALAYHE WASALLAMqJALLAJALALOUHOUaRIAL SIGN",
    "aARABIC LIGATURE BISMILLAH AR-RAHMAN AR-RAHEEMqSUBHAANAHU WA TAAALAAqAZZA WA JALL",
    "aVARIATION SELECTOR-1+0bS1bARIATION SELECTOR-2+0bS2bARIATION SELECTOR-3+0bS3",
    "bARIATION SELECTOR-4+0bS4bARIATION SELECTOR-5+0bS5bARIATION SELECTOR-6+0bS6",
    "bARIATION SELECTOR-7+0bS7bARIATION SELECTOR-8+0bS8bARIATION SELECTOR-9+0bS9",
    "bARIATION SELECTOR-10+0bS10bARIATION SELECTOR-11+0bS11bARIATION SELECTOR-12+0bS12",
    "bARIATION SELECTOR-13+0bS13bARIATION SELECTOR-14+0bS14bARIATION SELECTOR-15+0bS15",
    "bARIATION SELECTOR-16+0bS16aPRESENTATION FORM FOR VERTICAL COMMAbfIDEOGRAPHIC COMMA",
    "brFULL STOPbfCOLONbfSEMICOLONbfEXCLAMATION MARKbfQUESTION MARKbfLEFT WHITE LENTICULAR BRACKET",
    "bfRIGHT WHITE LENTICULAR BRACKET+0cfKCETbfHORIZONTAL ELLIPSIS+7aCOMBINING LIGATURE LEFT HALF",
    "tRIGHT HALFkDOUBLE TILDE LEFT HALFxRIGHT HALFkMACRON LEFT HALFrRIGHT HALFkCONJOINING MACRON",
    "kLIGATURE LEFT HALF BELOWtRIGHT HALF BELOWkTILDE LEFT HALF BELOWqRIGHT HALF BELOW",
    "kMACRON LEFT HALF BELOWrRIGHT HALF BELOWkCONJOINING MACRON BELOWlYRILLIC TITLO LEFT HALF",
    "zRIGHT HALFaPRESENTATION FORM FOR VERTICAL TWO DOT LEADERbfEM DASHbgN DASHbfLOW LINE",
    "bfWAVY LOW LINEbfLEFT PARENTHESISbfRIGHT PARENTHESISbfLEFT CURLY BRACKETbfRIGHT CURLY BRACKET",
    "bfLEFT TORTOISE SHELL BRACKETbfRIGHT TORTOISE SHELL BRACKETbfLEFT BLACK LENTICULAR BRACKET",
    "bfRIGHT BLACK LENTICULAR BRACKETbfLEFT DOUBLE ANGLE BRACKETbfRIGHT DOUBLE ANGLE BRACKET",
    "bfLEFT ANGLE BRACKETbfRIGHT ANGLE BRACKETbfLEFT CORNER BRACKETbfRIGHT CORNER BRACKET",
    "bfLEFT WHITE CORNER BRACKETbfRIGHT WHITE CORNER BRACKETaSESAME DOTaWHITE SESAME DOT",
    "aPRESENTATION FORM FOR VERTICAL LEFT SQUARE BRACKETbfRIGHT SQUARE BRACKETaDASHED OVERLINE",
    "aCENTRELINE OVERLINEaWAVY OVERLINEaDOUBLE WAVY OVERLINEbASHED LOW LINEaCENTRELINE LOW LINE",
    "aWAVY LOW LINEaSMALL COMMAgIDEOGRAPHIC COMMAgFULL STOP+2gSEMICOLONgCOLONgQUESTION MARK",
    "gEXCLAMATION MARKhM DASHgLEFT PARENTHESISgRIGHT PARENTHESISgLEFT CURLY BRACKET",
    "gRIGHT CURLY BRACKETgLEFT TORTOISE SHELL BRACKETgRIGHT TORTOISE SHELL BRACKETgNUMBER SIGN",
    "gAMPERSANDhSTERISKgPLUS SIGNgHYPHEN-MINUSgLESS-THAN SIGNgGREATER-THAN SIGNgEQUALS SIGN",
    "+2gREVERSE SOLIDUSgDOLLAR SIGNgPERCENT SIGNgCOMMERCIAL AT+5aARABIC FATHATAN ISOLATED FORM",
    "hTATWEEL WITH FATHATAN ABOVEhDAMMATAN ISOLATED FORMhTAIL FRAGMENThKASRATAN ISOLATED FORM",
    "+2hFATHA ISOLATED FORMnMEDIAL FORMhDAMMA ISOLATED FORMnMEDIAL FORMhKASRA ISOLATED FORM",
    "nMEDIAL FORMhSHADDA ISOLATED FORMoMEDIAL FORMiUKUN ISOLATED FORMnMEDIAL FORM",
    "hLETTER HAMZA ISOLATED FORMoALEF WITH MADDA ABOVE ISOLATED FORMbkFINAL FORM",
    "yHAMZA ABOVE ISOLATED FORMbkFINAL FORMoWAW WITH HAMZA ABOVE ISOLATED FORMbjFINAL FORM",
    "oALEF WITH HAMZA BELOW ISOLATED FORMbkFINAL FORMoYEH WITH HAMZA ABOVE ISOLATED FORM",
    "bjFINAL FORMbjINITIAL FORMbjMEDIAL FORMoALEF ISOLATED FORMtFINAL FORMoBEH ISOLATED FORM",
    "sFINAL FORMsINITIAL FORMsMEDIAL FORMoTEH MARBUTA ISOLATED FORMbaFINAL FORMsISOLATED FORM",
    "sFINAL FORMsINITIAL FORMsMEDIAL FORMpHEH ISOLATED FORMtFINAL FORMtINITIAL FORMtMEDIAL FORM",
    "oJEEM ISOLATED FORMtFINAL FORMtINITIAL FORMtMEDIAL FORMoHAH ISOLATED FORMsFINAL FORM",
    "sINITIAL FORMsMEDIAL FORMoKHAH ISOLATED FORMtFINAL FORMtINITIAL FORMtMEDIAL FORM",
    "oDAL ISOLATED FORMsFINAL FORMoTHAL ISOLATED FORMtFINAL FORMoREH ISOLATED FORMsFINAL FORM",
    "oZAIN ISOLATED FORMtFINAL FORMoSEEN ISOLATED FORMtFINAL FORMtINITIAL FORMtMEDIAL FORM",
    "pHEEN ISOLATED FORMuFINAL FORMuINITIAL FORMuMEDIAL FORMpAD ISOLATED FORMsFINAL FORM",
    "sINITIAL FORMsMEDIAL FORMoDAD ISOLATED FORMsFINAL FORMsINITIAL FORMsMEDIAL FORM",
    "oTAH ISOLATED FORMsFINAL FORMsINITIAL FORMsMEDIAL FORMoZAH ISOLATED FORMsFINAL FORM",
    "sINITIAL FORMsMEDIAL FORMoAIN ISOLATED FORMsFINAL FORMsINITIAL FORMsMEDIAL FORM",
    "oGHAIN ISOLATED FORMuFINAL FORMuINITIAL FORMuMEDIAL FORMoFEH ISOLATED FORMsFINAL FORM",
    "sINITIAL FORMsMEDIAL FORMoQAF ISOLATED FORMsFINAL FORMsINITIAL FORMsMEDIAL FORM",
    "oKAF ISOLATED FORMsFINAL FORMsINITIAL FORMsMEDIAL FORMoLAM ISOLATED FORMsFINAL FORM",
    "sINITIAL FORMsMEDIAL FORMoMEEM ISOLATED FORMtFINAL FORMtINITIAL FORMtMEDIAL FORM",
    "oNOON ISOLATED FORMtFINAL FORMtINITIAL FORMtMEDIAL FORMoHEH ISOLATED FORMsFINAL FORM",
    "sINITIAL FORMsMEDIAL FORMoWAW ISOLATED FORMsFINAL FORMoALEF MAKSURA ISOLATED FORMbbFINAL FORM",
    "oYEH ISOLATED FORMsFINAL FORMsINITIAL FORMsMEDIAL FORM",
    "iIGATURE LAM WITH ALEF WITH MADDA ABOVE ISOLATED FORMbvFINAL FORMbjHAMZA ABOVE ISOLATED FORM",
    "bvFINAL FORMbpBELOW ISOLATED FORMbvFINAL FORMbeISOLATED FORMbeFINAL FORM+3aBOM",
    "+0bYTE ORDER MARK+0aZERO WIDTH NO-BREAK SPACE+0bWNBSP+2aFULLWIDTH EXCLAMATION MARK",
    "kQUOTATION MARKkNUMBER SIGNkDOLLAR SIGNkPERCENT SIGNkAMPERSANDlPOSTROPHEkLEFT PARENTHESIS",
    "kRIGHT PARENTHESISkASTERISKkPLUS SIGNkCOMMAkHYPHEN-MINUSkFULL STOPkSOLIDUSkDIGIT ZEROqONEqTWO",
    "rHREEqFOURrIVEqSIXrEVENqEIGHTqNINEkCOLONkSEMICOLONkLESS-THAN SIGNkEQUALS SIGN",
    "kGREATER-THAN SIGNkQUESTION MARKkCOMMERCIAL ATkLATIN CAPITAL LETTER AbfBbfCbfDbfEbfFbfGbfHbfI",
    "bfJbfKbfLbfMbfNbfObfPbfQbfRbfSbfTbfUbfVbfWbfXbfYbfZlEFT SQUARE BRACKETkREVERSE SOLIDUS",
    "lIGHT SQUARE BRACKETkCIRCUMFLEX ACCENTkLOW LINEkGRAVE ACCENTkLATIN SMALL LETTER AbdBbdCbdDbdE",
    "bdFbdGbdHbdIbdJbdKbdLbdMbdNbdObdPbdQbdRbdSbdTbdUbdVbdWbdXbdYbdZlEFT CURLY BRACKET",
    "kVERTICAL LINEkRIGHT CURLY BRACKETkTILDEkLEFT WHITE PARENTHESISkRIGHT WHITE PARENTHESIS",
    "aHALFWIDTH IDEOGRAPHIC FULL STOPkLEFT CORNER BRACKETkRIGHT CORNER BRACKETkIDEOGRAPHIC COMMA",
    "kKATAKANA MIDDLE DOTtLETTER WObaSMALL AbgIbgUbgEbgObgYAbhUbhObgTU",
    "s-HIRAGANA PROLONGED SOUND MARKs LETTER AbaIbaUbaEbaObaKAbbIbbUbbEbbObaSAbbIbbUbbEbbObaTAbbI",
    "bbUbbEbbObaNAbbIbbUbbEbbObaHAbbIbbUbbEbbObaMAbbIbbUbbEbbObaYAbbUbbObaRAbbIbbUbbEbbObaWAbaN",
    "tVOICED SOUND MARKtSEMI-VOICED SOUND MARKkHANGUL FILLERrLETTER KIYEOKySSANGKIYEOKyKIYEOK-SIOS",
    "yNIEUNbd-CIEUCbeHIEUHyTIKEUTySSANGTIKEUTyRIEULbd-KIYEOKbeMIEUMbePIEUPbeSIOSbeTHIEUTHbePHIEUPH",
    "beHIEUHyMIEUMyPIEUPySSANGPIEUPyPIEUP-SIOSySIOSzSANGSIOSyIEUNGyCIEUCySSANGCIEUCyCHIEUCH",
    "yKHIEUKHyTHIEUTHyPHIEUPHyHIEUH+4yAzEyYAbaEyEOz+3yYEOba+1yOyWAbaEyOE+3yYOyUyWEOba+1zIyYU+3yEU",
    "yYIyI+4aFULLWIDTH CENT SIGNkPOUND SIGNkNOT SIGNkMACRONkBROKEN BARkYEN SIGNkWON SIGN",
    "+2aHALFWIDTH FORMS LIGHT VERTICALkLEFTWARDS ARROWkUPWARDS ARROWkRIGHTWARDS ARROW",
    "kDOWNWARDS ARROWkBLACK SQUAREkWHITE CIRCLE+11aINTERLINEAR ANNOTATION ANCHORxSEPARATOR",
    "xTERMINATORaOBJECT REPLACEMENT CHARACTERaREPLACEMENT CHARACTER+3aLINEAR B SYLLABLE B008 A",
    "u38 Eu28 Iu61 Ou10 Uu01 DAu45 DEu07 DIu14 DOu51 DUv7 JAu46 JE+2u36 JOu65 JUu77 KAu44 KEu67 KI",
    "u70 KOu81 KUv0 MAu13 MEu73 MIu15 MOu23 MUu06 NAu24 NEu30 NIu52 NOv5 NUu03 PAu72 PEu39 PI",
    "u11 POu50 PUu16 QAu78 QEu21 QIu32 QO+2u60 RAu27 REu53 RIu02 ROu26 RUu31 SAu09 SEu41 SIu12 SO",
    "u58 SUv9 TAu04 TEu37 TIu05 TOu69 TUu54 WAu75 WEu40 WIv2 WO+2u17 ZAu74 ZE+2u20 ZOv5 A2u43 A3",
    "u85 AUu71 DWEu90 DWOu48 NWAu29 PU2u62 PTEu76 RA2u33 RA3u68 RO2v6 TA2u87 TWEu91 TWO",
    "+3lMBOL B018t9s22s34s47t9s56s63t4s79s82t3t6t9+35jIDEOGRAM B100 MANv2 WOMANv4 DEERv5 EQUID",
    "wF MAREwM STALLIONv6F EWEwM RAMv7F SHE-GOATwM HE-GOATv8F SOWwM BOARv9F COWwM BULLu20 WHEAT",
    "v1 BARLEYv2 OLIVEv3 SPICEv5 CYPERUSjMONOGRAM B127 KAPOv8 KANAKOjIDEOGRAM B130 OILv1 WINEv2",
    "jMONOGRAM B133 AREPAv5 MERIjIDEOGRAM B140 BRONZEv1 GOLDv2v5 WOOLv6u50v1 HORNv2v3v4",
    "jMONOGRAM B156 TURO2jIDEOGRAM B157v8v9 CLOTHu60v1v2 GARMENTv3 ARMOURv4v5v6v7v8v9u70v1v2",
    "v3 MONTHv4v6 TREEv7v8v9u80v1v2v3v4v5v9u90v1 HELMETt220 FOOTSTOOLv5 BATHTUBu30 SPEARv1 ARROWv2",
    "v3 SWORDv4v6u40 WHEELED CHARIOTv1 CHARIOTv2 CHARIOT FRAMEv3 WHEELv5v6jMONOGRAM B247 DIPTE",
    "jIDEOGRAM B248v9u51v2v3v4 DARTv5v6v7v8v9sVESSEL B155ba200bc1bc2bc3bc4bc5bc6bc7bc8bc9bb10bc1",
    "bc2bc3bc4bc5bc6bc7bc8bc9bb21bc2bc6bc7bc8bc9bb50ba305+6aAEGEAN WORD SEPARATOR LINEwDOT",
    "hCHECK MARK+5hNUMBER ONEoTWOpHREEoFOURpIVEoSIXpEVENoEIGHToNINEoTENpWENTYpHIRTYoFORTYpIFTY",
    "oSIXTYpEVENTYoEIGHTYoNINETYoONE HUNDREDoTWO HUNDREDpHREE HUNDREDoFOUR HUNDREDpIVE HUNDRED",
    "oSIX HUNDREDpEVEN HUNDREDoEIGHT HUNDREDoNINE HUNDREDoONE THOUSANDoTWO THOUSANDpHREE THOUSAND",
    "oFOUR THOUSANDpIVE THOUSANDoSIX THOUSANDpEVEN THOUSANDoEIGHT THOUSANDoNINE THOUSAND",
    "oTEN THOUSANDpWENTY THOUSANDpHIRTY THOUSANDoFORTY THOUSANDpIFTY THOUSANDoSIXTY THOUSAND",
    "pEVENTY THOUSANDoEIGHTY THOUSANDoNINETY THOUSAND+4hWEIGHT BASE UNIToFIRST SUBUNIT",
    "oSECOND SUBUNIToTHIRD SUBUNIToFOURTH SUBUNIThDRY MEASURE FIRST SUBUNIT",
    "hLIQUID MEASURE FIRST SUBUNIThMEASURE SECOND SUBUNITpTHIRD SUBUNIT",
    "aGREEK ACROPHONIC ATTIC ONE QUARTERbbHALFbbDRACHMAxFIVEzFTYzVE HUNDREDbcTHOUSANDzFTY THOUSAND",
    "zVE TALENTSxTEN TALENTSxFIFTY TALENTSxONE HUNDRED TALENTSxFIVE HUNDRED TALENTS",
    "xONE THOUSAND TALENTSxFIVE THOUSAND TALENTSbcSTATERSxTEN STATERSxFIFTY STATERS",
    "xONE HUNDRED STATERSxFIVE HUNDRED STATERSxONE THOUSAND STATERSxTEN THOUSAND STATERS",
    "xFIFTY THOUSAND STATERSxTEN MNASrHERAEUM ONE PLETHRONrTHESPIAN ONErHERMIONIAN ONE",
    "rEPIDAUREAN TWOrTHESPIAN TWOrCYRENAIC TWO DRACHMASrEPIDAUREAN TWO DRACHMASrTROEZENIAN FIVE",
    "bcTENbf ALTERNATE FORMrHERMIONIAN TENrMESSENIAN TENrTHESPIAN TENbbHIRTYsROEZENIAN FIFTY",
    "bh ALTERNATE FORMrHERMIONIAN FIFTYrTHESPIAN FIFTYbaONE HUNDREDbaTHREE HUNDRED",
    "rEPIDAUREAN FIVE HUNDREDrTROEZENIAN FIVE HUNDREDsHESPIAN FIVE HUNDREDrCARYSTIAN FIVE HUNDRED",
    "rNAXIAN FIVE HUNDREDrTHESPIAN ONE THOUSANDbaFIVE THOUSANDrDELPHIC FIVE MNAS",
    "rSTRATIAN FIFTY MNASgONE HALF SIGNt ALTERNATE FORMgTWO THIRDS SIGNhHREE QUARTERS SIGN",
    "gYEAR SIGNgTALENT SIGNgDRACHMA SIGNgOBOL SIGNgTWO OBOLS SIGNhHREE OBOLS SIGNgFOUR OBOLS SIGN",
    "hIVE OBOLS SIGNgMETRETES SIGNgKYATHOS BASE SIGNgLITRA SIGNgOUNKIA SIGNgXESTES SIGN",
    "gARTABE SIGNiOURA SIGNgGRAMMA SIGNgTRYBLION BASE SIGNgZERO SIGNgONE QUARTER SIGN",
    "gSINUSOID SIGNgINDICTION SIGNaNOMISMA SIGN+2aROMAN SEXTANS SIGNgUNCIA SIGNgSEMUNCIA SIGN",
    "iXTULA SIGNgDIMIDIA SEXTULA SIGNgSILIQUA SIGNgDENARIUS SIGNgQUINARIUS SIGNgSESTERTIUS SIGN",
    "gDUPONDIUS SIGNgAS SIGNgCENTURIAL SIGNaASCIA SYMBOL+4aGREEK SYMBOL TAU RHO",
    "+48aPHAISTOS DISC SIGN PEDESTRIANuLUMED HEADtTATTOOED HEADtCAPTIVEuHILDtWOMANtHELMETtGAUNTLET",
    "tTIARAtARROWtBOWtSHIELDtCLUBtMANACLESvTTOCKtSAWtLIDtBOOMERANGtCARPENTRY PLANEtDOLIUMtCOMB",
    "tSLINGtCOLUMNtBEEHIVEtSHIPtHORNuIDEtBULLS LEGtCATtRAMtEAGLEtDOVEtTUNNYtBEEtPLANE TREEtVINE",
    "tPAPYRUStROSETTEtLILYtOX BACKtFLUTEtGRATERtSTRAINERuMALL AXEtWAVY BAND",
    "tCOMBINING OBLIQUE STROKE+131aLYCIAN LETTER AoEoBpHoGoDoIoWoZoTHoJoKoQoLoMoNoMMoNNoUoPoKKoRoS",
    "oTpToANoENoHoX+4aCARIAN LETTER AoP2oDoLoUUUoRoLDoA2oQoBoMoOoD2oToSHq2p+1oC-18oUoNNoXoNoTT2oP",
    "oSSoIoEoUUUUoKp2oNDoUUoGp2oSTq2oNGoIIoC-39oTToUUU2oRRoMBq2q3q4oLD2oE2oUUU3",
    "+16bOPTIC EPACT THOUSANDS MARKnDIGIT ONEtTWOuHREEtFOURuIVEtSIXuEVENtEIGHTtNINEnNUMBER TEN",
    "vWENTYvHIRTYuFORTYvIFTYuSIXTYvEVENTYuEIGHTYuNINETYuONE HUNDREDuTWO HUNDREDvHREE HUNDRED",
    "uFOUR HUNDREDvIVE HUNDREDuSIX HUNDREDvEVEN HUNDREDuEIGHT HUNDREDuNINE HUNDRED",
    "+5aOLD ITALIC LETTER AsBEsKEsDEsEsVEsZEsHEsTHEsIsKAsELtMtNtSHsOsPEsSHEsKUsERtSsTEsUsEKSsPHE",
    "sKHEsEFtRSsCHEsIIsUUsESSlNUMERAL ONEtFIVEtTENtFIFTY+10lLETTER YEsNORTHERN TSEsSOUTHERN TSE",
    "aGOTHIC LETTER AHSAoBAIRKANoGIBAoDAGSoAIHVUSoQAIRTHRAoIUJAoHAGLoTHIUTHoEISoKUSMAoLAGUSoMANNA",
    "oNAUTHSoJERoURUSoPAIRTHRAoNINETYoRAIDAoSAUILoTEIWSoWINJAoFAIHUoIGGWSoHWAIRoOTHALoNINE HUNDRED",
    "+6aOLD PERMIC LETTER ANsBURsGAIsDOIsEsZHOIsDZHOIsZATAsDZITAsIsKOKEsLEIsMENOEsNENOEsVOOIsPEEI",
    "sREIsSIIsTAIsUsCHERYsSHOOIuCHOOIsYRYtERUsOtOsEFsHAsTSIUsVERsYERvItATsIEsYUtAsIA",
    "aCOMBINING OLD PERMIC LETTER ANbcDOIbcZATAbcNENOEbcSII+6aUGARITIC LETTER ALPAqBETAqGAMLAqKHA",
    "qDELTAqHOqWOqZETAqHOTAqTETqYODqKAFqSHINqLAMDAqMEMqDHALqNUNqZUqSAMKAqAINqPUqSADEqQOPAqRASHA",
    "qTHANNAqGHAINqTOqIqUqSSU+2jWORD DIVIDERaOLD PERSIAN SIGN ArIrUrKAsUrGAsUrXArCArJAsIrTAsUrDAsI",
    "sUrTHArPArBArFArNAsUrMAsIsUrYArVAsIrRAsUrLArSArZArSHAsSArHA+5rAURAMAZDAAbb-2bbHArXSHAAYATHIYA",
    "rDAHYAAUSHba-2rBAGAsUUMISHmWORD DIVIDERmNUMBER ONEtTWOuENuWENTYtHUNDRED",
    "+43aDESERET CAPITAL LETTER LONG IbcEbcAbdHbcObdOxSHORT IbdEbdAbeHbdObeOxAYxOWxWUxYEExHxPEE",
    "xBEExTEExDEExCHEExJEExKAYxGAYxEFxVEExETHxTHEExESxZEExESHxZHEExERyLyMyNzGxOIxEW",
    "iSMALL LETTER LONG IbaEbaAbbHbaObbOvSHORT IbbEbbAbcHbbObcOvAYvOWvWUvYEEvHvPEEvBEEvTEEvDEE",
    "vCHEEvJEEvKAYvGAYvEFvVEEvETHvTHEEvESvZEEvESHvZHEEvERwLwMwNxGvOIvEWaSHAVIAN LETTER PEEPpTOT",
    "pKICKpFEEpTHIGHpSOqUREpCHURCHpYEApHUNGpBIBpDEADpGAGpVOWpTHEYpZOOpMEASUREpJUDGEpWOEpHA-HApLOLL",
    "pMIMEpIFpEGGpASHqDOpONpWOOLpOUTpAHpROARpNUNpEATpAGEpICEpUPpOAKqOZEqILpAWEqREpORpAIRpERRpARRAY",
    "pEARpIANpYEWaOSMANYA LETTER ALEFpBApTApJApXApKHApDEELpRApSAqHIINpDHApCAYNpGApFApQAAFpKAAF",
    "pLAANpMIINpNUUNpWAWpHApYApApEpIpOpUpAApEEpOO+3iDIGIT ZEROoONEoTWOpHREEoFOURpIVEoSIXpEVEN",
    "oEIGHToNINE+7cAGE CAPITAL LETTER AwIxNwHvBRAvCHAvEHCHAw+1wINvHAwYAvIvKAvEHKAvKYAvLAvMAvNAvO",
    "wINvPAvEHPAvSAwHAvTAvEHTAvTSAvEHTSAvTSHAvDHAvUvWAvKHAvGHAvZAwHA+5gSMALL LETTER AuIvNuHtBRA",
    "tCHAtEHCHAu+1uINtHAuYAtItKAtEHKAtKYAtLAtMAtNAtOuINtPAtEHPAtSAuHAtTAtEHTAtTSAtEHTSAtTSHAtDHAtU",
    "tWAtKHAtGHAtZAuHA+5aELBASAN LETTER ApBEpCEqHEpDEpNDEpDHEpEIq+1pFEpGEqJEpHEpIpJEpKEpLEqLEpME",
    "pNEqAqJEpOpPEpQEpREqREpSEqHEpTEqHEpUpVEpXEpYpZEqHEpGHErAMMApKHE",
    "+9aCAUCASIAN ALBANIAN LETTER ALTbaBETbaGIMbaDATbaEBbaZARLbaEYNbaZHILbaTASbaCHAbaYOWDbaZHA",
    "baIRBbaSHAbaLANbaINYAbaXEYNbaDYANbaCARbaJHOXbaKARbaLYITbaHEYTbaQAYbaAORbaCHOYbcIbbYAYbaMAQ",
    "baQARbaNOWCbaDZYAYbaSHAKbaJAYNbaONbaTYAYbaFAMbaDZAYbaCHATbaPENbaGHEYSbaRATbaSEYKbaVEYZbaTIWR",
    "baSHOYbaIWNbaCYAWbbAYNbaYAYDbaPIWRbaKIW+12tCITATION MARKaVITHKUQI CAPITAL LETTER AyBBEzEyCE",
    "zHEyDEzHEyEIz+1yFEyGA+2yHAzHAyIzJEyJEyKAyLAzLAyMEyNEzJEyOyPEyQAyRE+2ySEzHEyTEzHEyUyVEyXE+2yY",
    "yZE+2jSMALL LETTER AwBBExEwCExHEwDExHEwEIx+1wFEwGA+2wHAxHAwIxJEwJEwKAwLAxLAwMEwNExJEwOwPEwQA",
    "wRE+2wSExHEwTExHEwUwVEwXE+2wYwZE+68aLINEAR A SIGN AB001s2s3s4s5s6s7s8s9r10s1s3s6s7r20s1tFtMs2",
    "tFtMs3tMs4s6s7s8p028BpB029r30s1s4s7s8s9r40s1s4s5s6s7s8s9r50s1s3s4s5s6s7s8s9r60s1s5s6s7s9r70s3",
    "s4s6s7s8s9r80s1s2s5s6s7p100-102pB118r20p120BpB122s3r31AtBp131CpB164r71r80s8r91p301r2r3r4r5r6",
    "r7r8r9AsBsCq10r1r2r3AsBsCr4r5r6r7r8r9q20r1r2r3r4r5r6r7r8r9q30r1r2r3r4r5r6r7r8r9q40r1r2r3r4r5",
    "r6r7r8r9q50r1r2r3r4r5r6r7r8r9q60r1r2r3r4r5r6r7r8r9q70r1p400-VASr1-VASr2-VASr3-VASr4-VASr5-VAS",
    "r6-VASr7-VASr8-VASr9-VASq10-VASr1-VASr2-VASr3-VASr4-VASr5-VASr6-VASr7-VASr8-VASp501r2r3r4r5r6",
    "r8r9q10r1r2r3r5r6q20r1r3r4r5r6r7r8r9q30r1r2r4r5r6r7r8r9q40r1r2r5r7r8r9q50r1r2r3r4r5r6r7r9q63",
    "r4r5r6r8r9q70r1r2r3r4r5r6r7r8r9q80r1r2r3r4r5r6r7r8r9q91r2r4r5r6r8p600r1r2r3r4r6r8r9q10r1r2r3",
    "r4r5r6r7r8r9q20r1r2r3r4r6r7r8r9q34r7r8q40r2r3r4r5r6r8r9q51r2r3r4r5r6r7r8r9q60r1r2r3r4",
    "+10p701 Ar2 Br3 Dr4 Er5 Fr6 Hr7 Jr8 Kr9 Ls-2 L2t3 L3t4 L4t6 L6q10 Wr1 Xr2 Yr3 OMEGAr4 ABB",
    "r5 BBr7 DDq26 EYYYq32 JE+11p800r1r2r3r4r5r6r7+25aMODIFIER LETTER SMALL CAPITAL AA",
    "rUPERSCRIPT TRIANGULAR COLONbcHALF TRIANGULAR COLONrMALL AEwCAPITAL BwB WITH HOOK",
    "+2wDZ DIGRAPHbg WITH RETROFLEX HOOKbmCURLxEZH DIGRAPHx WITH TAILbdHOOKbh AND TAILwREVERSED E",
    "wCLOSED REVERSED OPEN EwFENG DIGRAPHwRAMS HORNwCAPITAL GwG WITH HOOKwCAPITAL G WITH HOOK",
    "wH WITH STROKEwCAPITAL HwHENG WITH HOOKwDOTLESS J WITH STROKE AND HOOKwLS DIGRAPHxZ DIGRAPH",
    "x WITH BELTwCAPITAL L WITH BELTwL WITH RETROFLEX HOOK AND BELTxEZHba WITH RETROFLEX HOOK",
    "wTURNED Ybe WITH BELTwO WITH STROKEwCAPITAL OExLOSED OMEGAwQwTURNED R WITH LONG LEG",
    "bs AND RETROFLEX HOOKwR WITH TAILbdFISHHOOKwCAPITAL RwTC DIGRAPH WITH CURLxS DIGRAPH",
    "bg WITH RETROFLEX HOOKxESH DIGRAPHx WITH RETROFLEX HOOKwV WITH RIGHT HOOK+2wCAPITAL Y",
    "qGLOTTAL STOP WITH STROKEqREVERSED GLOTTAL STOP WITH STROKEqBILABIAL CLICKqDENTAL CLICK",
    "qLATERAL CLICKqALVEOLAR CLICKqRETROFLEX CLICK WITH RETROFLEX HOOKqSMALL S WITH CURL",
    "+70aCYPRIOT SYLLABLE ArErIrOrUrJA+3sO+2rKAsEsIsOsUrLAsEsIsOsUrMAsEsIsOsUrNAsEsIsOsUrPAsEsIsO",
    "sUrRAsEsIsOsUrSAsEsIsOsUrTAsEsIsOsUrWAsEsIsO+2rXAsE+4rZA+3sOaIMPERIAL ARAMAIC LETTER ALEPH",
    "yBETHyGIMELyDALETHyHEyWAWyZAYINyHETHyTETHyYODHyKAPHyLAMEDHyMEMyNUNySAMEKHyAYINyPEySADHEyQOPH",
    "yRESHySHINyTAW+2rSECTION SIGNrNUMBER ONEyTWOzHREEzENzWENTYyONE HUNDREDbcTHOUSANDyTEN THOUSAND",
    "aPALMYRENE LETTER ALEPHrBETHrGIMELrDALETHrHErWAWrZAYINrHETHrTETHrYODHrKAPHrLAMEDHrMEM",
    "rFINAL NUNrNUNrSAMEKHrAYINrPErSADHErQOPHrRESHrSHINrTAWmFT-POINTING FLEURON",
    "kRIGHT-POINTING FLEURONkNUMBER ONErTWOsHREErFOURsIVErTENsWENTYaNABATAEAN LETTER FINAL ALEPH",
    "rALEPHrFINAL BETHrBETHrGIMELrDALETHrFINAL HErHErWAWrZAYINrHETHrTETHrFINAL YODHrYODH",
    "rFINAL KAPHrKAPHrFINAL LAMEDHrLAMEDHrFINAL MEMrMEMrFINAL NUNrNUNrSAMEKHrAYINrPErSADHErQOPH",
    "rRESHrFINAL SHINrSHINrTAW+9kNUMBER ONErTWOsHREErFOURkCRUCIFORM NUMBER FOURkNUMBER FIVErTEN",
    "sWENTYrONE HUNDRED+49aHATRAN LETTER ALEPHoBETHoGIMELoDALETH-RESHoHEoWAWoZAYNoHETHoTETHoYODH",
    "oKAPHoLAMEDHoMEMoNUNoSAMEKHoAYNoPEoSADHEoQOPH+2oSHINoTAW+6hNUMBER ONEoFIVEoTENpWENTY",
    "oONE HUNDREDaPHOENICIAN LETTER ALFsBETsGAMLsDELTsHEsWAUsZAIsHETsTETsYODsKAFsLAMDsMEMsNUNsSEMK",
    "sAINsPEsSADEsQOFsROSHsSHINsTAUlNUMBER ONEsTENtWENTYsONE HUNDREDsTWOtHREE+4lWORD SEPARATOR",
    "aLYDIAN LETTER AoBoGoDoEoVoIoYoKoLoMoNoOoRoSSoToUoFoQoSoTToANoENoLYoNNoC+6hTRIANGULAR MARK",
    "+65aMEROITIC HIEROGLYPHIC LETTER AbdEbdIbdObdYAbdWAbdBAbf-2bdPAbdMAbdNAbf-2beEbf-2bdRAbf-2",
    "bdLAbdKHAbdHHAbdSAbf-2beEbdKAbdQAbdTAbf-2beEbf-2beObdDAwSYMBOL VIDJbh-2jCURSIVE LETTER AyEyI",
    "yOyYAyWAyBAyPAyMAyNAzEyRAyLAyKHAyHHAySAyARCHAIC SAySEyKAyQAyTAzEzOyDA",
    "+5rFRACTION ELEVEN TWELFTHSbaONE HALFrLOGOGRAM RMTbaIMNrNUMBER ONEyTWOzHREEyFOURzIVEySIXzEVEN",
    "yEIGHTyNINEyTENzWENTYzHIRTYyFORTYzIFTYySIXTYzEVENTY+3yONE HUNDREDyTWO HUNDREDzHREE HUNDRED",
    "yFOUR HUNDREDzIVE HUNDREDySIX HUNDREDzEVEN HUNDREDyEIGHT HUNDREDyNINE HUNDREDyONE THOUSAND",
    "yTWO THOUSANDzHREE THOUSANDyFOUR THOUSANDzIVE THOUSANDySIX THOUSANDzEVEN THOUSAND",
    "yEIGHT THOUSANDyNINE THOUSANDyTEN THOUSANDzWENTY THOUSANDzHIRTY THOUSANDyFORTY THOUSAND",
    "zIFTY THOUSANDySIXTY THOUSANDzEVENTY THOUSANDyEIGHTY THOUSANDyNINETY THOUSAND",
    "yONE HUNDRED THOUSANDyTWO HUNDRED THOUSANDzHREE HUNDRED THOUSANDyFOUR HUNDRED THOUSAND",
    "zIVE HUNDRED THOUSANDySIX HUNDRED THOUSANDzEVEN HUNDRED THOUSANDyEIGHT HUNDRED THOUSAND",
    "yNINE HUNDRED THOUSANDrFRACTION ONE TWELFTHbaTWO TWELFTHSbbHREE TWELFTHSbaFOUR TWELFTHS",
    "bbIVE TWELFTHSbaSIX TWELFTHSbbEVEN TWELFTHSbaEIGHT TWELFTHSbaNINE TWELFTHSbaTEN TWELFTHS",
    "aKHAROSHTHI LETTER AlVOWEL SIGN IwUwVOCALIC R+2wEwO+6rLENGTH MARKlSIGN DOUBLE RING BELOW",
    "qANUSVARAqVISARGAlLETTER KAtHAsGAtHA+2sCAtHAsJA+2sNYAsTTAuHAsDDAuHAsNNAsTAtHAsDAtHAsNAsPAtHA",
    "sBAtHAsMAsYAsRAsLAsVAsSHAtSAtAsZAsHAsKKAsTTTHAvAsVHA+3lSIGN BAR ABOVEqCAUDAqDOT BELOW",
    "+5lVIRAMAlDIGIT ONErTWOsHREErFOURlNUMBER TENtWENTYsONE HUNDREDwTHOUSANDlFRACTION ONE HALF",
    "+8lPUNCTUATION DOTxSMALL CIRCLExCIRCLEyRESCENT BARxMANGALAMxLOTUSxDANDAyOUBLE DANDAxLINES",
    "+8aOLD SOUTH ARABIAN LETTER HEzLAMEDHzHETHzMEMzQOPHzWAWzSHINzRESHzBETHzTAWzSATzKAPHzNUNzKHETH",
    "zSADHEbbMEKHzFEzALEFbaYNzDHADHEzGIMELzDALETHzGHAYNzTETHzZAYNzDHALETHzYODHzTHAWbbETH",
    "sNUMBER ONEzFIFTYvERIC INDICATOReNORTH ARABIAN LETTER HEHzLAMzHAHzMEEMzQAFzWAWzES-2zREHzBEH",
    "zTEHzES-1zKAFzNOONzKHAHzSADzES-3zFEHzALEFbaINzDADzGEEMzDALzGHAINzTAHzZAINzTHALzYEHzTHEHzZAH",
    "sNUMBER ONEzTENbaWENTY+33aMANICHAEAN LETTER ALEPHsBETHtHETHsGIMELtHIMELsDALETHsHEsWAWlSIGN UD",
    "lLETTER ZAYINtHAYINsJAYINtHAYINsHETHsTETHsYODHsKAPHsXAPHsKHAPHsLAMEDHsDHAMEDHsTHAMEDHsMEMsNUN",
    "sSAMEKHsAYINtAYINsPEsFEsSADHEsQOPHsXOPHsQHOPHsRESHsSHINtSHINsTAWlABBREVIATION MARK ABOVE",
    "bdBELOW+5lNUMBER ONEsFIVEsTENtWENTYsONE HUNDREDlPUNCTUATION STARxFLEURON",
    "xDOUBLE DOT WITHIN DOTzT WITHIN DOTba+1xTWO DOTSxLINE FILLER+10aAVESTAN LETTER AqAqOqAOqNqAN",
    "qErEpEqEpOqOpIqIpUqUpKEpXEqYEqVEpGEqGEqHEpCEpJEpTEqHEpDEqHEpTTEpPEpFEpBEqHEpNGErYErVEqEqYEqNE",
    "pMEpHMEpYYEqEpVEpREpLEpSEpZEpSHEpZHEpSHYEqSHEpHE+4iABBREVIATION MARK",
    "aTINY TWO DOTS OVER ONE DOT PUNCTUATIONaSMALL TWO DOTS OVER ONE DOT PUNCTUATION",
    "aLARGE TWO DOTS OVER ONE DOT PUNCTUATIONgONE DOT OVER TWO DOTS PUNCTUATION",
    "gTWO RINGS OVER ONE RING PUNCTUATIONgONE RING OVER TWO RINGS PUNCTUATION",
    "aINSCRIPTIONAL PARTHIAN LETTER ALEPHbeBETHbeGIMELbeDALETHbeHEbeWAWbeZAYINbeHETHbeTETHbeYODH",
    "beKAPHbeLAMEDHbeMEMbeNUNbeSAMEKHbeAYINbePEbeSADHEbeQOPHbeRESHbeSHINbeTAW+3xNUMBER ONEbeTWO",
    "bfHREEbeFOURbeTENbfWENTYbeONE HUNDREDbiTHOUSANDqHLAVI LETTER ALEPHbdBETHbdGIMELbdDALETHbdHE",
    "bdWAW-AYIN-RESHbdZAYINbdHETHbdTETHbdYODHbdKAPHbdLAMEDHbdMEM-QOPHbdNUNbdSAMEKHbdPEbdSADHEbeHIN",
    "bdTAW+6wNUMBER ONEbdTWObeHREEbdFOURbdTENbeWENTYbdONE HUNDREDbhTHOUSAND",
    "aPSALTER PAHLAVI LETTER ALEPHxBETHxGIMELxDALETHxHExWAW-AYIN-RESHxZAYINxHETHxYODHxKAPHxLAMEDH",
    "xMEM-QOPHxNUNxSAMEKHxPExSADHEyHINxTAW+8qSECTION MARKqTURNED SECTION MARKqFOUR DOTS WITH CROSS",
    "bfDOT+13qNUMBER ONExTWOyHREExFOURxTENyWENTYxONE HUNDRED+81aOLD TURKIC LETTER ORKHON A",
    "sYENISEI AbbEsORKHON IsYENISEI IbaEsORKHON ObaEsYENISEI OEsORKHON ABsYENISEI ABsORKHON AEB",
    "sYENISEI AEBsORKHON AGsYENISEI AGsORKHON AEGsYENISEI AEGsORKHON ADsYENISEI ADsORKHON AEDzEZ",
    "sYENISEI EZsORKHON AYsYENISEI AYsORKHON AEYsYENISEI AEYsORKHON AEKsYENISEI AEKsORKHON OEK",
    "sYENISEI OEKsORKHON ALsYENISEI ALsORKHON AELzELTbaMzANbaENsYENISEI AENsORKHON ENTsYENISEI ENT",
    "sORKHON ENCsYENISEI ENCsORKHON ENYsYENISEI ENYbaANGsORKHON ENGsYENISEI AENGsORKHON EPzOPzIC",
    "zECsYENISEI ECsORKHON AQsYENISEI AQsORKHON IQsYENISEI IQsORKHON OQsYENISEI OQsORKHON AR",
    "sYENISEI ARsORKHON AERbaSbaESbaSHsYENISEI ASHsORKHON ESHsYENISEI ESHsORKHON ATsYENISEI AT",
    "sORKHON AETsYENISEI AETsORKHON OTzBASH+56eHUNGARIAN CAPITAL LETTER AbeAbdEBbdAMBbdECbeNCbeCS",
    "beDbdANDbdEbdCLOSE EbdEEbeFbeGbfYbeHbdIbeIbdEJbeKbdAKbdUNKbdELbfYbeMbeNbfYbdObeO",
    "bdNIKOLSBURG OEbdRUDIMENTA OEbdOEEbdEPbeMPbeRbdSHORT ERbdESbfZbeTbeNTbeTYbeCHbdUbeU",
    "bdNIKOLSBURG UEbdRUDIMENTA UEbdEVbeZbfSbeNT-SHAPED SIGNbdUS+14oSMALL LETTER AbcAbbEBbbAMBbbEC",
    "bcNCbcCSbcDbbANDbbEbbCLOSE EbbEEbcFbcGbdYbcHbbIbcIbbEJbcKbbAKbbUNKbbELbdYbcMbcNbdYbbObcO",
    "bbNIKOLSBURG OEbbRUDIMENTA OEbbOEEbbEPbcMPbcRbbSHORT ERbbESbdZbcTbcNTbcTYbcCHbbUbcU",
    "bbNIKOLSBURG UEbbRUDIMENTA UEbbEVbcZbdSbcNT-SHAPED SIGNbbUS+8oNUMBER ONEvFIVEvTENvFIFTY",
    "vONE HUNDREDzTHOUSANDaHANIFI ROHINGYA LETTER AxBAxPAxTAyTAxJAxCAxHAxKHAxFAxDAyDAxRAyRAxZAxSA",
    "yHAxKAxGAxLAxMAxNAxWAxKINNA WAxYAxKINNA YAxNGAyYAxVAqVOWEL AwIwUwEwOqMARK SAKINvNA KHONNA",
    "qSIGN HARBAHAYvTAHALAxNAxSSI+9qDIGIT ZEROwONEwTWOxHREEwFOURxIVEwSIXxEVENwEIGHTwNINE",
    "+295aRUMI DIGIT ONElTWOmHREElFOURmIVElSIXmEVENlEIGHTlNINEfNUMBER TENnWENTYnHIRTYmFORTYnIFTY",
    "mSIXTYnEVENTYmEIGHTYmNINETYmONE HUNDREDmTWO HUNDREDnHREE HUNDREDmFOUR HUNDREDnIVE HUNDRED",
    "mSIX HUNDREDnEVEN HUNDREDmEIGHT HUNDREDmNINE HUNDREDfFRACTION ONE HALFsQUARTERsTHIRD",
    "oTWO THIRDS+2aYEZIDI LETTER ELIFoBEoPEpHEoTHEoSEoCIMpHIMqHIMoHHAoXAoDALoZALoRApHAoZAoJAoSIN",
    "pHINpADoDADoTAoZEoEYNoXHEYNoFAoVAq ALTERNATE FORMoQAFoKAFpHAFoGAFoLAMoMIMoNUNoUMoWAWoOWoEW",
    "oHAYoYOToET+2hCOMBINING HAMZA MARKrMADDA MARKhHYPHENATION MARK+3hLETTER LAM WITH DOT ABOVE",
    "oYOT WITH CIRCUMFLEX ABOVE+79aOLD SOGDIAN LETTER ALEPHtFINAL ALEPHtBETHtFINAL BETHtGIMELtHE",
    "tFINAL HEtWAWtZAYINtHETHtYODHtKAPHtLAMEDHtMEMtNUNtFINAL NUNbc WITH VERTICAL TAILtSAMEKHtAYIN",
    "uLTERNATE AYINtPEtSADHEtFINAL SADHEbe WITH VERTICAL TAILtRESH-AYIN-DALETHtSHINtTAWtFINAL TAW",
    "bc WITH VERTICAL TAILmNUMBER ONEtTWOuHREEtFOURuIVEtTENuWENTYuHIRTYtONE HUNDRED",
    "mFRACTION ONE HALFmLIGATURE AYIN-DALETH+9aSOGDIAN LETTER ALEPHpBETHpGIMELpHEpWAWpZAYINpHETH",
    "pYODHpKAPHpLAMEDHpMEMpNUNpSAMEKHpAYINpPEpSADHEpRESH-AYINpSHINpTAWpFETHpLESHiINDEPENDENT SHIN",
    "iCOMBINING DOT BELOWsTWO DOTS BELOWsDOT ABOVEsTWO DOTS ABOVEsCURVE ABOVEyBELOWsHOOK ABOVE",
    "xBELOWsLONG HOOK BELOWsRESH BELOWsSTROKE BELOWiNUMBER ONEpTENqWENTYpONE HUNDRED",
    "iPUNCTUATION TWO VERTICAL BARSbl WITH DOTSuCIRCLE WITH DOTuTWO CIRCLES WITH DOTS",
    "uHALF CIRCLE WITH DOT+23aOLD UYGHUR LETTER ALEPHsBETHsGIMEL-HETHsWAWsZAYINsFINAL HETHsYODH",
    "sKAPHsLAMEDHsMEMsNUNsSAMEKHsPEsSADHEsRESHsSHINsTAWsLESHlCOMBINING DOT ABOVEzBELOW",
    "vTWO DOTS ABOVEbeBELOWlPUNCTUATION BARxTWO BARSbbDOTSxFOUR DOTS+39aCHORASMIAN LETTER ALEPH",
    "sSMALL ALEPHsBETHsGIMELsDALETHsHEsWAWsCURLED WAWsZAYINsHETHsYODHsKAPHsLAMEDHsMEMsNUNsSAMEKH",
    "sAYINsPEsRESHsSHINsTAWlNUMBER ONEsTWOtHREEsFOURsTENtWENTYsONE HUNDRED+21aELYMAIC LETTER ALEPH",
    "pBETHpGIMELpDALETHpHEpWAWpZAYINpHETHpTETHpYODHpKAPHpLAMEDHpMEMpNUNpSAMEKHpAYINpPEpSADHEpQOPH",
    "pRESHpSHINpTAWjIGATURE ZAYIN-YODH+10aBRAHMI SIGN CANDRABINDUmANUSVARAmVISARGAmJIHVAMULIYA",
    "mUPADHMANIYAhLETTER ApAoIpIoUpUoVOCALIC RxRwLxLoEoAIoOoAUoKApHAoGApHAoNGAoCApHAoJApHAoNYAoTTA",
    "qHAoDDAqHAoNNAoTApHAoDApHAoNAoPApHAoBApHAoMAoYAoRAoLAoVAoSHApSApAoHAoLLAoOLD TAMIL LLLAyRRA",
    "yNNNAhVOWEL SIGN AAsBHATTIPROLU AAsItIsUtUsVOCALIC RbbRbaLbbLsEsAIsOsAUiIRAMAhDANDA",
    "iOUBLE DANDAhPUNCTUATION DOTvUBLE DOTtLINEtCRESCENT BARtLOTUS+5hNUMBER ONEoTWOpHREEoFOURpIVE",
    "oSIXpEVENoEIGHToNINEoTENpWENTYpHIRTYoFORTYpIFTYoSIXTYpEVENTYoEIGHTYoNINETYoONE HUNDRED",
    "sTHOUSANDhDIGIT ZEROnONEnTWOoHREEnFOURoIVEnSIXoEVENnEIGHTnNINEhSIGN OLD TAMIL VIRAMA",
    "hLETTER OLD TAMIL SHORT EbeOhVOWEL SIGN OLD TAMIL SHORT EbiOhLETTER OLD TAMIL LLA",
    "+10hNUMBER JOINERaKAITHI SIGN CANDRABINDUmANUSVARAmVISARGAhLETTER ApAoIpIoUpUoEoAIoOoAUoKApHA",
    "oGApHAoNGAoCApHAoJApHAoNYAoTTAqHAoDDAqDHAqHAoRHAoNNAoTApHAoDApHAoNAoPApHAoBApHAoMAoYAoRAoLA",
    "oVAoSHApSApAoHAhVOWEL SIGN AAsItIsUtUsEsAIsOsAUhSIGN VIRAMAmNUKTAhABBREVIATION SIGN",
    "hENUMERATION SIGNhNUMBER SIGNhSECTION MARKhDOUBLE SECTION MARKiANDAiOUBLE DANDA",
    "hVOWEL SIGN VOCALIC R+11hNUMBER SIGN ABOVE+3aSORA SOMPENG LETTER SAHuTAHuBAHuCAHuDAHuGAHuMAH",
    "uNGAHuLAHuNAHuVAHuPAHuYAHuRAHuHAHuKAHuJAHuNYAHuAHuEEHuIHuUHuOHuEHuMAE+8nDIGIT ZEROtONEtTWO",
    "uHREEtFOURuIVEtSIXuEVENtEIGHTtNINE+7aCHAKMA SIGN CANDRABINDUmANUSVARAmVISARGAhLETTER AAoIoUoE",
    "oKAApHAAoGAApHAAoNGAAoCAApHAAoJAApHAAoNYAAoTTAAqHAAoDDAAqHAAoNNAAoTAApHAAoDAApHAAoNAAoPAApHAA",
    "oBAApHAAoMAAoYYAApAAoRAAoLAAoWAAoSAAoHAAhVOWEL SIGN AsItIsUtUsEsAIsOsAUsOIhO MARKhAU MARK",
    "hVIRAMAhMAAYYAA+2hDIGIT ZEROnONEnTWOoHREEnFOURoIVEnSIXoEVENnEIGHTnNINEhSECTION MARKhDANDA",
    "iOUBLE DANDAhQUESTION MARKhLETTER LHAAhVOWEL SIGN AAsEIhLETTER VAA+9aMAHAJANI LETTER AqIqUqE",
    "qOqKArHAqGArHAqCArHAqJArHAqNYAqTTAsHAqDDAsHAqNNAqTArHAqDArHAqNAqPArHAqBArHAqMAqRAqLAqVAqSAqHA",
    "qRRAjSIGN NUKTAjABBREVIATION SIGNjSECTION MARKjLIGATURE SHRI+10aSHARADA SIGN CANDRABINDU",
    "nANUSVARAnVISARGAiLETTER AqApIqIpUqUpVOCALIC RyRxLyLpEpAIpOpAUpKAqHApGAqHApNGApCAqHApJAqHA",
    "pNYApTTArHApDDArHApNNApTAqHApDAqHApNApPAqHApBAqHApMApYApRApLAqLApVApSHAqSAqApHAiVOWEL SIGN AA",
    "tIuItUuUtVOCALIC RbcRbbLbcLtEtAItOtAUiSIGN VIRAMAnAVAGRAHAnJIHVAMULIYAnUPADHMANIYAiOMiDANDA",
    "jOUBLE DANDAiABBREVIATION SIGNiSEPARATORjANDHI MARKjIGN NUKTAiVOWEL MODIFIER MARK",
    "iEXTRA SHORT VOWEL MARKiSUTRA MARKiVOWEL SIGN PRISHTHAMATRA EiSIGN INVERTED CANDRABINDU",
    "iDIGIT ZEROoONEoTWOpHREEoFOURpIVEoSIXpEVENoEIGHToNINEiEKAMiSIGN SIDDHAMiHEADSTROKE",
    "iCONTINUATION SIGNiSECTION MARK-1v2+2bINHALA ARCHAIC DIGIT ONEwTWOxHREEwFOURxIVEwSIXxEVEN",
    "wEIGHTwNINEqNUMBER TENyWENTYyHIRTYxFORTYyIFTYxSIXTYyEVENTYxEIGHTYxNINETYxONE HUNDRED",
    "bbTHOUSAND+12aKHOJKI LETTER ApAoIoUoEoAIoOoAUoKApHAoGApGApHAoNGAoCApHAoJApJA+2oNYAoTTAqHAoDDA",
    "qHAoNNAoTApHAoDApDDApHAoNAoPApHAoBApBApHAoMAoYAoRAoLAoVAoSAoHAoLLAhVOWEL SIGN AAsItIsUsEsAIsO",
    "sAUhSIGN ANUSVARAmVIRAMAmNUKTAmSHADDAhDANDAiOUBLE DANDAhWORD SEPARATORhSECTION MARK",
    "hDOUBLE SECTION MARKhABBREVIATION SIGNhSIGN SUKUN+66aMULTANI LETTER ApIpUpEpKAqHApGA+2qHA",
    "+2pCAqHApJAqJA+2pNYApTTArHApDDArDArHApNNApTAqHApDAqHApNApPAqHApBA+2qHApMApYApRApLApVApSApHA",
    "pRRAqHAiSECTION MARK+7aKHUDAWADI LETTER AsArIsIrUsUrErAIrOrAUrKAsHArGAsGAsHArNGArCAsHArJAsJA",
    "sHArNYArTTAtHArDDAtDArRRArDDHArNNArTAsHArDAsHArNArPAsHArBAsBAsHArMArYArRArLArVArSHAsArHA",
    "kSIGN ANUSVARAkVOWEL SIGN AAvIwIvUwUvEvAIvOvAUkSIGN NUKTApVIRAMA+6kDIGIT ZEROqONEqTWOrHREE",
    "qFOURrIVEqSIXrEVENqEIGHTqNINE+7aGRANTHA SIGN COMBINING ANUSVARA ABOVEoANDRABINDUnANUSVARA",
    "nVISARGA+2iLETTER AqApIqIpUqUpVOCALIC RxL+3pEEpAI+3pOOpAUpKAqHApGAqHApNGApCAqHApJAqHApNYApTTA",
    "rHApDDArHApNNApTAqHApDAqHApNA+2pPAqHApBAqHApMApYApRA+2pLAqLA+2pVApSHAqSAqApHA",
    "+2aCOMBINING BINDU BELOWaGRANTHA SIGN NUKTAnAVAGRAHAiVOWEL SIGN AAtIuItUuUtVOCALIC RbcR+3tEE",
    "tAI+3tOOtAUiSIGN VIRAMA+3iOM+7iAU LENGTH MARK+6iSIGN PLUTAiLETTER VEDIC ANUSVARA",
    "vDOUBLE ANUSVARAqOCALIC RRxLLiVOWEL SIGN VOCALIC LbcL+3aCOMBINING GRANTHA DIGIT ZEROyONEyTWO",
    "zHREEyFOURzIVEySIX+4sLETTER AzKAzNAzVIzPA+140aNEWA LETTER AnAmInImUnUmVOCALIC RvRuLvLmEmAImO",
    "mAUmKAnHAmGAnHAmNGAoHAmCAnHAmJAnHAmNYAoHAmTTAoHAmDDAoHAmNNAmTAnHAmDAnHAmNAnHAmPAnHAmBAnHAmMA",
    "nHAmYAmRAnHAmLAnHAmWAmSHAnSAnAmHAfVOWEL SIGN AAqIrIqUrUqVOCALIC RzRyLzLqEqAIqOqAUfSIGN VIRAMA",
    "kCANDRABINDUkANUSVARAkVISARGAkNUKTAkAVAGRAHAkFINAL ANUSVARAfOMfSIDDHIfDANDAgOUBLE DANDAfCOMMA",
    "fGAP FILLERfABBREVIATION SIGNfDIGIT ZEROlONElTWOmHREElFOURmIVElSIXmEVENlEIGHTlNINE",
    "gOUBLE COMMAfPLACEHOLDER MARK+2fINSERTION SIGNfSANDHI MARKfLETTER VEDIC ANUSVARA",
    "fSIGN JIHVAMULIYAkUPADHMANIYA+31aTIRHUTA ANJIiLETTER AqApIqIpUqUpVOCALIC RyRxLyLpEpAIpOpAUpKA",
    "qHApGAqHApNGApCAqHApJAqHApNYApTTArHApDDArHApNNApTAqHApDAqHApNApPAqHApBAqHApMApYApRApLApVApSHA",
    "qSAqApHAiVOWEL SIGN AAtIuItUuUtVOCALIC RbcRbbLbcLtEtSHORT EtAItOtSHORT OtAUiSIGN CANDRABINDU",
    "nANUSVARAnVISARGApRAMAnNUKTAnAVAGRAHAiGVANGiABBREVIATION SIGNiOM+9iDIGIT ZEROoONEoTWOpHREE",
    "oFOURpIVEoSIXpEVENoEIGHToNINE+167aSIDDHAM LETTER AqApIqIpUqUpVOCALIC RyRxLyLpEpAIpOpAUpKAqHA",
    "pGAqHApNGApCAqHApJAqHApNYApTTArHApDDArHApNNApTAqHApDAqHApNApPAqHApBAqHApMApYApRApLApVApSHAqSA",
    "qApHAiVOWEL SIGN AAtIuItUuUtVOCALIC RbcR+3tEtAItOtAUiSIGN CANDRABINDUnANUSVARAnVISARGApRAMA",
    "nNUKTAnSIDDHAMiDANDAjOUBLE DANDAiSEPARATOR DOTsBARiREPETITION MARK-1y2y3iEND OF TEXT MARK",
    "iSECTION MARK WITH TRIDENT AND U-SHAPED ORNAMENTSbmDOTTED CRESCENTS",
    "baRAYS AND DOTTED CRESCENTSbqDOUBLE CRESCENTSbqTRIPLE CRESCENTSvDOUBLE RINGbg WITH RAYS",
    "vWITH DOUBLE CRESCENTSbaTRIPLE CRESCENTSbaQUADRUPLE CRESCENTSbaSEPTUPLE CRESCENTS",
    "baCIRCLES AND RAYSbmTWO ENCLOSURESbmFOUR ENCLOSURESiLETTER THREE-CIRCLE ALTERNATE I",
    "qWO-CIRCLE ALTERNATE IblIpALTERNATE UiVOWEL SIGN ALTERNATE UbeU+35aMODI LETTER AnAmInImUnU",
    "mVOCALIC RvRuLvLmEmAImOmAUmKAnHAmGAnHAmNGAmCAnHAmJAnHAmNYAmTTAoHAmDDAoHAmNNAmTAnHAmDAnHAmNA",
    "mPAnHAmBAnHAmMAmYAmRAmLAmVAmSHAnSAnAmHAmLLAfVOWEL SIGN AAqIrIqUrUqVOCALIC RzRyLzLqEqAIqOqAU",
    "fSIGN ANUSVARAkVISARGAmRAMAkARDHACANDRAfDANDAgOUBLE DANDAfABBREVIATION SIGNfSIGN HUVA",
    "+12fDIGIT ZEROlONElTWOmHREElFOURmIVElSIXmEVENlEIGHTlNINE+7cNGOLIAN BIRGA WITH ORNAMENT",
    "kROTATED BIRGAkDOUBLE BIRGA WITH ORNAMENTkTRIPLE BIRGA WITH ORNAMENT",
    "kBIRGA WITH DOUBLE ORNAMENTkROTATED BIRGA WITH ORNAMENTbdDOUBLE ORNAMENTkINVERTED BIRGA",
    "y WITH DOUBLE ORNAMENTkSWIRL BIRGAv WITH ORNAMENTbbDOUBLE ORNAMENT",
    "kTURNED SWIRL BIRGA WITH DOUBLE ORNAMENT+20aTAKRI LETTER AoAnIoInUoUnEnAInOnAUnKAoHAnGAoHA",
    "nNGAnCAoHAnJAoHAnNYAnTTApHAnDDApHAnNNAnTAoHAnDAoHAnNAnPAoHAnBAoHAnMAnYAnRAnLAnVAnSHAoAnHAnRRA",
    "gSIGN ANUSVARAlVISARGAgVOWEL SIGN AArIsIrUsUrErAIrOrAUgSIGN VIRAMAlNUKTAgLETTER ARCHAIC KHA",
    "gABBREVIATION SIGN+7gDIGIT ZEROmONEmTWOnHREEmFOURnIVEmSIXnEVENmEIGHTmNINE+55aAHOM LETTER KA",
    "nHAmNGAnAmTAmALTERNATE TAmPAnHAmBAmMAmJAmCHAmTHAmRAmLAmSAmNYAmHAmAmDAnHAmGAmALTERNATE GAmGHA",
    "mBHAmJHAmALTERNATE BA+3fCONSONANT SIGN MEDIAL LAbbRAbbLIGATING RAfVOWEL SIGN ArAqIrIqUrUqEqAW",
    "qOqAIrMfSIGN KILLER+5fDIGIT ZEROlONElTWOmHREElFOURmIVElSIXmEVENlEIGHTlNINEfNUMBER TENnWENTY",
    "fSIGN SMALL SECTIONlECTIONkRULAIgYMBOL VIfLETTER CAmTTAoHAmDDAoHAmNNAmLLA+186aDOGRA LETTER A",
    "oAnIoInUoUnEnAInOnAUnKAoHAnGAoHAnNGAnCAoHAnJAoHAnNYAnTTApHAnDDApHAnNNAnTAoHAnDAoHAnNAnPAoHA",
    "nBAoHAnMAnYAnRAnLAnVAnSHAoSAoAnHAnRRAgVOWEL SIGN AArIsIrUsUrVOCALIC RbaRrErAIrOrAU",
    "gSIGN ANUSVARAlVISARGAnRAMAlNUKTAgABBREVIATION SIGN+101aWARANG CITI CAPITAL LETTER NGAAbbA",
    "bbWIbbYUbcAbcObbIIbbUUbbEbbObbANGbbGAbbKObbENYbbYUJbbUCbbENNbbODDbbTTEbbNUNGbbDAbbATbcMbbBU",
    "bbPUbbHIYObcOLObdRRbcARbbSSUUbcIIbbVIYOmSMALL LETTER NGAAzAzWIzYUbaAbaOzIIzUUzEzOzANGzGAzKO",
    "zENYzYUJzUCzENNzODDzTTEzNUNGzDAzATbaMzBUzPUzHIYObaOLObbRRbaARzSSUUbaIIzVIYOmDIGIT ZEROsONE",
    "sTWOtHREEsFOURtIVEsSIXtEVENsEIGHTsNINEmNUMBER TENuWENTYuHIRTYtFORTYuIFTYtSIXTYuEVENTYtEIGHTY",
    "tNINETY+13mOMaDIVES AKURU LETTER AuAtIuItUuUtE+3tO+3tKAuHAtGAuHAtNGAtCAuHAtJA+2tNYAtTTA+2tDDA",
    "vHAtNNAtTAuHAtDAuHAtNAtPAuHAtBAuHAtMAtYAuYAtRAtLAtVAtSHAuSAuAtHAtLLAtZAmVOWEL SIGN AAxIyIxUyU",
    "xE+2xAIxO+3mSIGN ANUSVARArCANDRABINDUrHALANTAmVIRAMAmPREFIXED NASAL SIGNmMEDIAL YAmINITIAL RA",
    "mMEDIAL RAmSIGN NUKTAmDOUBLE DANDAmGAP FILLERmEND OF TEXT MARK+10mDIGIT ZEROsONEsTWOtHREE",
    "sFOURtIVEsSIXtEVENsEIGHTsNINE+71aNANDINAGARI LETTER AuAtIuItUuUtVOCALIC RbcR+3tEtAItOtAUtKA",
    "uHAtGAuHAtNGAtCAuHAtJAuHAtNYAtTTAvHAtDDAvHAtNNAtTAuHAtDAuHAtNAtPAuHAtBAuHAtMAtYAtRAtLAtVAtSHA",
    "uSAuAtHAtLLAtRRAmVOWEL SIGN AAxIyIxUyUxVOCALIC RbgR+3xExAIxOxAUmSIGN ANUSVARArVISARGAtRAMA",
    "rAVAGRAHArSIDDHAMmHEADSTROKEmVOWEL SIGN PRISHTHAMATRA E+28aZANABAZAR SQUARE LETTER A",
    "rVOWEL SIGN IbcUEbd+1bcEbcOEbd+1bcAIbdUbcREVERSED IxLENGTH MARKrLETTER KAzHAyGAzHAyNGAyCAzHA",
    "yJAyNYAyTTAbaHAyDDAbaHAyNNAyTAzHAyDAzHAyNAyPAzHAyBAzHAyMAyTSAbaHAyDZAbaHAyZHAzAy-AyYAyRAyLA",
    "yVAySHAzSAzAyHAyKSSArFINAL CONSONANT MARKrSIGN VIRAMAwCANDRABINDUbh WITH ORNAMENT",
    "bc WITH ORNAMENTwANUSVARAwVISARGArCLUSTER-INITIAL LETTER RAzFINAL LETTER YAbmRAbmLAbmVA",
    "rINITIAL HEAD MARKrCLOSING HEAD MARKrMARK TSHEGwSHADwDOUBLE SHADwLONG TSHEG",
    "rINITIAL DOUBLE-LINED HEAD MARKrCLOSING DOUBLE-LINED HEAD MARKrSUBJOINER+9aSOYOMBO LETTER A",
    "iVOWEL SIGN ItUEu+1tEtOuEtAIuUtVOCALIC RbbLoLENGTH MARKiLETTER KAqHApGAqHApNGApCAqHApJAqHA",
    "pNYApTTArHApDDArHApNNApTAqHApDAqHApNApPAqHApBAqHApMApTSArHApDZApZHAqAp-ApYApRApLApVApSHAqSAqA",
    "pHApKSSAiSIGN JIHVAMULIYAnUPADHMANIYAiCLUSTER-INITIAL LETTER RAbfLAbfSHAbgA",
    "iFINAL CONSONANT SIGN GbdKbdNGbdDbdNbdBbdMbdRbdLbdSHbe+1bd-AiSIGN ANUSVARAnVISARGA",
    "iGEMINATION MARKiSUBJOINERiMARK TSHEGnSHADnDOUBLE SHADnPLUTA",
    "iHEAD MARK WITH MOON AND SUN AND TRIPLE FLAMEboFLAMEbj+1iTERMINAL MARK-1w2",
    "+14aCANADIAN SYLLABICS NATTILIK HIbeIbdObeObdAbeAbcSHRIbgIbfObgObfAbgAtSPEvIvOvA",
    "aPAU CIN HAU LETTER PAtKAtLAtMAtDAtZAtVAtNGAtHAtGAtKHAtSAtBAtCAtTAuHAtNAtPHAtRAtFAtCHAtAtEtI",
    "tOtUuAtIAtFINAL PzKzTzMzNzLzWzNGzYmRISING TONE LONGx+1mSANDHI GLOTTAL STOP",
    "mRISING TONE LONG FINALyFINALmSANDHI GLOTTAL STOP FINALtTONE LONGx+1x LONG FINALyFINAL",
    "mMID-LEVEL TONEmGLOTTAL STOP VARIANTmMID-LEVEL TONE LONG FINALbbFINALmLOW-FALLING TONE LONGbc",
    "+1mGLOTTAL STOPmLOW-FALLING TONE LONG FINALbdFINALmGLOTTAL STOP FINAL+264aBHAIKSUKI LETTER A",
    "sArIsIrUsUrVOCALIC RbaRzL+2rErAIrOrAUrKAsHArGAsHArNGArCAsHArJAsHArNYArTTAtHArDDAtHArNNArTAsHA",
    "rDAsHArNArPAsHArBAsHArMArYArRArLArVArSHAsSAsArHAkVOWEL SIGN AAvIwIvUwUvVOCALIC RbeRbdL+2vEvAI",
    "vOvAUkSIGN CANDRABINDUpANUSVARApVISARGArRAMApAVAGRAHAkDANDAlOUBLE DANDAkWORD SEPARATOR",
    "kGAP FILLER-1v2+11kDIGIT ZEROqONEqTWOrHREEqFOURrIVEqSIXrEVENqEIGHTqNINEkNUMBER ONErTWOsHREE",
    "rFOURsIVErSIXsEVENrEIGHTrNINErTENsWENTYsHIRTYrFORTYsIFTYrSIXTYsEVENTYrEIGHTYrNINETY",
    "kHUNDREDS UNIT MARK+4aMARCHEN HEAD MARKiMARK SHADiLETTER KAqHApGApNGApCAqHApJApNYApTAqHApDA",
    "pNApPAqHApBApMApTSArHApDZApWApZHAqAp-ApYApRApLApSHAqApHApA+3iSUBJOINED LETTER KAbaHAzGAzNGA",
    "zCAbaHAzJAzNYAzTAbaHAzDAzNAzPAbaHAzBAzMAzTSAbbHAzDZAzWAzZHAbaA+2zYAzRAzLAzSHAbaAzHAzA",
    "iVOWEL SIGN AAtItUtEtOiSIGN ANUSVARAnCANDRABINDU+74cSARAM GONDI LETTER AwAvIwIvUwUvE+2vAIvO",
    "+2vAUvKAwHAvGAwHAvNGAvCAwHAvJAwHAvNYAvTTAxHAvDDAxHAvNNAvTAwHAvDAwHAvNAvPAwHAvBAwHAvMAvYAvRA",
    "vLAvVAvSHAwSAwAvHAvLLAvKSSAvJNYAvTRAoVOWEL SIGN AAzIbaIzUbaUzVOCALIC R+4zE+2zAIzO+2zAU",
    "oSIGN ANUSVARAtVISARGAtNUKTAtCANDRAtHALANTAoVIRAMAoREPHApA-KARA+9oDIGIT ZEROuONEuTWOvHREE",
    "uFOURvIVEuSIXvEVENuEIGHTuNINE+7aGUNJALA GONDI LETTER AwAvIwIvUwU+2vEEvAI+2vOOvAUvYAvVAvBAwHA",
    "vMAvKAwHAvTAwHAvLAvGAwHAvDAwHAvNAvCAwHAvTTAxHAvLLAvJAwHAvDDAxHAvNGAvPAwHAvHAvRAvSA",
    "oVOWEL SIGN AAzIbaIzUbaU+2zEEzAI+2zOOzAUoSIGN ANUSVARAtVISARGAoVIRAMAoOM+8oDIGIT ZEROuONEuTWO",
    "vHREEuFOURvIVEuSIXvEVENuEIGHTuNINE+311aMAKASAR LETTER KApGApNGApPApBApMApTApDApNApCApJApNYA",
    "pYApRApLApVApSApAiANGKAiVOWEL SIGN ItUtEtOiPASSIMBANGiEND OF SECTION+184aLISU LETTER YHA",
    "+16aTAMIL FRACTION ONE THREE-HUNDRED-AND-TWENTIETHtONE-HUNDRED-AND-SIXTIETHtEIGHTIETH",
    "tSIXTY-FOURTHtFORTIETHtTHIRTY-SECONDpTHREE EIGHTIETHSvSIXTY-FOURTHSpONE TWENTIETHtSIXTEENTH-1",
    "bd2tTENTHtEIGHTHpTHREE TWENTIETHSvSIXTEENTHSpONE FIFTHtQUARTERtHALF-1y2pTHREE QUARTERS",
    "pDOWNSCALING FACTOR KIIZHgSIGN NELlCEVITUlAAZHAAKKUlUZHAKKUlMUUVUZHAKKUlKURUNIlPATHAKKU",
    "lMUKKURUNIlKAACUlPANAMmONlVARAAKANlPAARAMlKUZHIlVELIgWET CULTIVATION SIGN",
    "gDRY CULTIVATION SIGNgLAND SIGNgSALT PAN SIGNgTRADITIONAL CREDIT SIGNsNUMBER SIGN",
    "gCURRENT SIGNgAND ODD SIGNgSPENT SIGNgTOTAL SIGNgIN POSSESSION SIGNgSTARTING FROM SIGN",
    "hIGN MUTHALIYAlVAKAIYARAA+14gPUNCTUATION END OF TEXTaCUNEIFORM SIGN Aq TIMES AxBADxGAN2 TENU",
    "xHAxIGIxLAGAR GUNUxMUSHxSAGq2qBr TIMES ASH2yDUN3 GUNUyGALbaN2 TENUyHAyIGI GUNUzMINyLAGAB",
    "ySHESHyU PLUS U PLUS UsGUNUr2s TIMES BALAGzGAN2 TENUzME PLUS ENzSHA3zTAK4qDqKr TIMES ERIN2",
    "ySHITA PLUS GISHqLr TIMES ALyDIM2yGISHyHAyKAD3zIySHEyUSHrANrEPHqMARt TIMES SHEqNr OVER AN",
    "sTHREE TIMESsPLUS NAGA OPPOSING AN PLUS NAGAbcSQUAREDrSHEqPINqRADt TIMES KURrKABqSAL2rH",
    "s ZIDA TENUtKABA TENUtOVER ASH TUG2 OVER TUG2 TUG2 OVER TUG2 PAPbcOVER ASH",
    "bk CROSSING ASH OVER ASH OVER ASHs2sGABpBArDrG3rHAR2rLs OVER BALsAGrRsA2qIr TIMES AyGAR",
    "yIGI GUNUqUr OVER BU ABbaUNsCROSSING BUrLUGu OVER BULUGrRs2pDArGs KISIM5 TIMES A PLUS MASH",
    "bhMARbgBALAGbhIbgGAbi PLUS MASHbhIbiR2bhUDbgHAbgIRbi PLUS LUbgKAKbgLAbhUbi PLUS MASH2biMbgNE",
    "bgPAP PLUS PAPbgSIbgTAK4bgU2 PLUS GIR2bhSHrMrRsA3t4qIrBrMs TIMES SHEs2rNs KASKAL U GUNU DISH",
    "rSHqUr OVER DUsGUNUsSHESHIGrBs TIMES ESH2s2rGsUDrHrNs3t GUNUy GUNUs4rR2pEq TIMES PAP",
    "rOVER E NUN OVER NUNq2r TIMES A PLUS HA PLUS DAyGARyMIySALzHEyUqDINqGIRqLqNr TIMES GAN2",
    "bc TENUyMEsCROSSING ENsOPPOSING ENsSQUAREDqRENrIN2qSH2qZENt TIMES Abb PLUS LALbk TIMES LALbbN",
    "baBADbaDUN3 GUNUbj GUNUbaHAbc GUNUbaIGI GUNUbaKASKALbg SQUAREDbbU3baLAbcL TIMES LALbbIbbUbaU2",
    "bbDpGAr GUNUr2s TIMES A PLUS DA PLUS HAbgHAbgIGIbaB2 TENU PLUS TABbaNbaSHbc2 PLUS GALzBAD",
    "bbR PLUS RAbaURbc PLUS RAzDAbaIbbM TIMES SHEbaUBzELbb PLUS LAbaNbb TIMES GAN2 TENUzGAN2 TENU",
    "bbRbaIbb4bc PLUS AbbR2 PLUS SUzHA PLUS LU PLUS ESH2bbLbc PLUS LAbaI PLUS LIbaUB2zIGI GUNU",
    "baSH PLUS HU PLUS ASHzKAKbbSKALbaIDbc PLUS LALbaU3 PLUS ANzLAzME PLUS ENbaIzNUNbc OVER NUNzPA",
    "zSALbbRbaHEbc PLUS TURbbIDbaUMzTAK4zUbaDbb PLUS DUtOVER GA2rBAt CROSSING GABArD",
    "s OVER GAD GAR OVER GARrLs GAD OVER GAD GAR OVER GARsAMrMrNs2t TENUuOVER GAN2uCROSSING GAN2rR",
    "s3rSHANqESHTINw TIMES KURqIr TIMES EyUsCROSSING GIr4s OVER GI4tCROSSING GI4rDIMrR2t GUNUs3",
    "t TIMES A PLUS IGIbaGAN2 TENUbaIGIbaLU PLUS IGIbaPArSALsHt CROSSING GISHuTIMES BADbaTAK4vENU",
    "qUr CROSSING GUr2s TIMES KAKbc TIMES IGI GUNUzNUNzSAL PLUS TUG2tGUNUrDs TIMES A PLUS KURzKUR",
    "tOVER GUD LUGALrLrMs TIMES SHErRs7sUNtSHpHAr TENUsGUNUrLqIr TIMES ASHbb2yBADyDISHyGADyKINyNUN",
    "ySHEyUqUrB2t TIMES ANbaHALbaKASKALbaLISHbaUDrL2pIq AqBqDIMt OVER IDIM BURbeSQUAREDqGrIs DIB",
    "tRItOVER IGI SHIR OVER SHIR UD OVER UDtGUNUqLr TIMES GAN2 TENUr2qMr TIMES TAK4sCROSSING IM",
    "sOPPOSING IMsSQUAREDrINqNqRqSHpKAr TIMES AzDba PLUS KU3zSH2yBADbaLAGbaRzIyERIN2zSH2yGAbaL",
    "baN2 TENUbaRbb PLUS SHA3 PLUS AzIbaR2baSH PLUS SARbdCROSSING GISHzUbaR7yIGIzMyKAKzIbaDyLIzU",
    "yMEba PLUS DUbgGIbgTEzIba PLUS NUNUZyNEzUNyPIyRUySAbaRzHAbaEbaIDbaUzIGzUHURyTARyUz2zD",
    "zMUM TIMES PAzSHyZIr2s CROSSING KA2rBrD2s3s4s5t OVER KAD5rKs TIMES IGI GUNUrLs TIMES BAD",
    "tCROSSING KALrM2s4rSKALv LAGAB TIMES U OVER LAGAB TIMES U",
    "wOVER KASKAL LAGAB TIMES U OVER LAGAB TIMES UqESH2qIr TIMES BADyUzDrDrNrSALsHsIM5",
    "v OVER KISIM5qUr OVER HI TIMES ASH2 KU OVER HI TIMES ASH2r3r4s VARIANT FORMr7rLs GUNUrNrR",
    "s OPPOSING KURrSHU2qWU318pLArGABu TIMES Abc PLUS DA PLUS HAbiGARbiLALbcLbcNbcSH ZIDA TENU",
    "bbBADbcIbbDARbbENbbGAbdRbcUDbe PLUS GUDbbHAbdLbcI TIMES NUNbbIGI GUNUbcMbd PLUS HAbjLUbbKIbdN",
    "bcU3bdLbe PLUS HI PLUS AbbLAGABbcISHbcUbdLbbMEbd PLUS ENbcUSHbbNEbbSHE PLUS SUM",
    "bdITA PLUS GISH PLUS ERIN2brTENUbdU2bf PLUS SHU2bcUMbbTAGbdK4bcE PLUS A PLUS SU PLUS NAbbU",
    "bc PLUS AbiU PLUS Ubc2 PLUS ASHbcDbcSHvSQUAREDtRu TIMES SHEbe PLUS SUMvGUNU",
    "z OVER LAGAR GUNU SHErHSHUrLs TIMES LALrMs TIMES KURbc PLUS RUqIrLrMMU2rSHqUr TIMES BADr2",
    "s TIMES ALzBADzESH2bd TENUzGAN2 TENUzHI TIMES BADzIMzKAD2bc3bd PLUS ASHbaIzLA PLUS ASHbbGAB",
    "zME PLUS ENzNEbaUzSI PLUS ASHbbK2 PLUS BUzTUG2uENUtCROSSING LU2tOPPOSING LU2tSQUAREDuHESHIGr3",
    "rGALu OVER LUGALwPPOSING LUGALvSHESHIGrHrLrMs OVER LUMbb GAR OVER GARpMAr TIMES TAK4sGUNUr2rH",
    "rRrSHt2qErSqIrNqUr OVER MUrGs GUNUrNSUBrRGU2rSHt TIMES AbaKURbaZAuOVER MUSHbd TIMES A PLUS NA",
    "uCROSSING MUSHt3u TIMES Abc PLUS DIbbDIvGUNUpNAr2rGAt INVERTEDuTIMES SHU TENUuOPPOSING NAGAtR",
    "rM NUTILLUs+1s2qEr TIMES AyUDsSHESHIGqIr TIMES Er2rMs TIMES GAN2 TENUbbR PLUS GAN2 TENUrNDA2",
    "v TIMES ANbdSHbf PLUS ASHbcGUDbcME PLUS GAN2 TENUbcNEbdUNbcSHEbf PLUS A ANbmSHbo PLUS ASH",
    "bcU2 PLUS ASHbdSHrSAGqUr11rNs LAGAR TIMES GARbfMASHbfSALbi OVER NUN LAGAR TIMES SALbfUSHtTENU",
    "tOVER NUNtCROSSING NUNbf LAGAR OVER LAGARsUZu AB2 TIMES ASHGABbfBIbfDUGbfGUDbfIGI GUNUbfKAD3",
    "bfLAbfNEbfSILA3bfU2vKISIM5 TIMES BIbk UpPArDrNrPqESH2qIr TIMES AzByBIzUyEyIzByUz2sCROSSING PI",
    "rRIGu TIMES KALbbUDbbZAvOPPOSING PIRIGpRArBqIqUpSArG NUTILLUs+1s TIMES AzDUbbBzHAzKAKbaURzLUM",
    "zMIzNUNzSALbaHIDzTABzU2baBbaMbaRbaSHtOVER SAGtGUNUrLs LAGAB TIMES ASH2rNGA2rRqHAs3t TIMES A",
    "baBADbaGISHbaNEbaSHU2baTURbaUbb PLUS As6sB6sR2rEs HUtOVER SHE GAD OVER GAD GAR OVER GAR",
    "bcTAB OVER TAB GAR OVER GARsG9sNsSHu2uLAMrIDt TIMES AbaIMsMt TIMES AbaBALbbULUGbaDINbaGAR",
    "baIGIbd GUNUbaKUSHU2baLULbaMUGbaSALsNIGsRpNU11 TENU+0pSHIR TENUpNU11 OVER NU11 BUR OVER BUR",
    "+0pSHIR OVER SHIR BUR OVER BURsTArUs OVER INVERTED SHUs2sBURqIr GUNUrGs4t OVER SIG4 SHU2rK2",
    "rLA3qUr OVER SUrDs2rHURrMsASHrRs9pTAr ASTERISKsTIMES HIyMIsGUNUrB",
    "s OVER TAB NI OVER NI DISH OVER DISHtSQUAREDrGs TIMES BIzGUDzSHEbbUzTUG2zUDrK4rRqEr GUNUqI",
    "r TENUrLrRs TIMES TAK4tOVER TIRbb GAD OVER GAD GAR OVER GARqUrG2rKrMrRs OVER TUR ZA OVER ZApU",
    "q GUDrU UrOVER U PA OVER PA GAR OVER GARySUR OVER SURyU REVERSED OVER U REVERSEDq2qBqD",
    "r KUSHU2sTIMES BADyMIyU PLUS U PLUS Ubn GUNUsGUNUsSHESHIGz TIMES BADrUGqMr TIMES LAGAB",
    "yME PLUS DAySHA3yUrBINrUMt TIMES KASKALbaPAqNr GUNUqRr CROSSING URsSHESHIGr2s TIMES A PLUS HA",
    "bgNAbaLzHAzNUNzU2bb PLUS ASHbhBIr4rIs3rUs TIMES AbaSHGABzBARzDUNzGAbbLbbN2 TENUbbRbaUzHAzIGI",
    "baMbaSHzKIzLUMzMINzPAzSHEbaIG4zTUzU PLUS GUDbaDbaRUDAsDAu TIMES UqSHs TIMES AzKUbbRzTAK4sXs2",
    "sUMXqTUKIqZ3s TIMES KASKALrUpZAr TENUsSQUARED TIMES KURrGrMXqE2qIr OVER ZIr3rBs KABA TENUrG",
    "rZ2qUr5s TIMES ArBURrMpKAP ELAMITEpAB TIMES NUNr2 TIMES AqMAR TIMES KUG",
    "pDAG KISIM5 TIMES U2 PLUS MASHs3qISH PLUS SHUqUB TIMES SHEpEZEN TIMES GUDbaSHE",
    "pGA2 TIMES AN PLUS KAK PLUS AbaSH2qE22qIGpHUSHpKA TIMES ANSHEzSH3yGISHzUDyHI TIMES ASH2yLUM",
    "yPAySHULyTUyUR2pLAGAB TIMES GIqU2 SHESHIG TIMES BADtTIMES ESH2 PLUS LALzSHUpMESH",
    "qUSH3 TIMES ZApNA4qINs9sDA2 TIMES BALbcGIqU11 ROTATED NINETY DEGREESpPESH2 ASTERISKqIR2",
    "pSAG TIMES IGI GUNUpTI2pUM TIMES MEq U+103kNUMERIC SIGN TWO ASHyHREE ASHxFOUR ASHyIVE ASH",
    "xSIX ASHyEVEN ASHxEIGHT ASHxNINE ASHxTHREE DISHxFOUR DISHyIVE DISHxSIX DISHyEVEN DISH",
    "xEIGHT DISHxNINE DISHxFOUR UyIVE UxSIX UyEVEN UxEIGHT UxNINE UxONE GESH2xTWO GESH2yHREE GESH2",
    "xFOUR GESH2yIVE GESH2xSIX GESH2yEVEN GESH2xEIGHT GESH2xNINE GESH2xONE GESHUxTWO GESHU",
    "yHREE GESHUxFOUR GESHUyIVE GESHUxTWO SHAR2yHREE SHAR2bi VARIANT FORMxFOUR SHAR2yIVE SHAR2",
    "xSIX SHAR2yEVEN SHAR2xEIGHT SHAR2xNINE SHAR2xONE SHARUxTWO SHARUyHREE SHARUbi VARIANT FORM",
    "xFOUR SHARUyIVE SHARUxSHAR2 TIMES GAL PLUS DISHbsMINxONE BURUxTWO BURUyHREE BURU",
    "bh VARIANT FORMxFOUR BURUyIVE BURUxTHREE VARIANT FORM ESH16bt21xFOUR VARIANT FORM LIMMUbu4",
    "bu AbvBxSIX VARIANT FORM ASH9yEVEN VARIANT FORM IMIN3bu AbvBxEIGHT VARIANT FORM USSUbu3",
    "xNINE VARIANT FORM ILIMMUbv3bv4bv AxTWO ASH TENUyHREE ASH TENUxFOUR ASH TENUyIVE ASH TENU",
    "xSIX ASH TENUxONE BAN2xTWO BAN2yHREE BAN2xFOUR BAN2bg VARIANT FORMyIVE BAN2bg VARIANT FORM",
    "xNIGIDAMINbdESHxONE ESHE3xTWO ESHE3xONE THIRD DISHxTWO THIRDS DISHxFIVE SIXTHS DISH",
    "xONE THIRD VARIANT FORM AxTWO THIRDS VARIANT FORM AxONE EIGHTH ASHbbQUARTER ASH",
    "yLD ASSYRIAN ONE SIXTHboQUARTERyNE QUARTER GURbbHALF GURxELAMITE ONE THIRDbfTWO THIRDSbfFORTY",
    "bgIFTYxFOUR U VARIANT FORMyIVE U VARIANT FORMxSIX U VARIANT FORMyEVEN U VARIANT FORM",
    "xEIGHT U VARIANT FORMxNINE U VARIANT FORM+2kPUNCTUATION SIGN OLD ASSYRIAN WORD DIVIDER",
    "bbVERTICAL COLONbbDIAGONAL COLONbkTRICOLONbkQUADCOLON+12kSIGN AB TIMES NUN TENUySHU2",
    "qD TIMES ESH2pBAD TIMES DISH TENUrHAR2 TIMES AB2bcNIbcZAqU OVER BU TIMES NA2pDA TIMES TAK4",
    "rG TIMES KURqIM TIMES IGIzU U Us2 TIMES UDqUG TIMES ANSHEbaSHbc AT LEFTzDINbaUNzERIN2zGAbaI",
    "bbR2 GUNUbbSHzHAbaIzIGI GUNUzKASKALbaURbbSHU2bf PLUS KASKALzLAK-020bbMbc TIMES KUR",
    "baUH PLUS GISHzMASHbaESbaIzNIzPIzSHEbaI GUNUpE2 TIMES KURyPAPqRIN2 XqSH2 CROSSING ESH2",
    "qZEN SHESHIG TIMES ASHbiHIbiIGI GUNUbiLAbkLbiMEbkSbiSUuTIMES SUpGA2 TIMES BAHAR2zDIM GUNU",
    "baUG TIMES IGI GUNUbjKASKALzERENzGAbbR PLUS DIbiNEzHA PLUS AzKUSHU2 PLUS KASKALzLAM",
    "bc TIMES KURbaUHzMUSHzNEbb PLUS E2bhGIzSHIMzZIZ2rBA ROTATED NINETY DEGREESqESHTIN TIMES U",
    "qISH TIMES GISH CROSSING GISHqU2 TIMES IGI GUNUrD PLUS GISH TIMES TAK4pHA TENU GUNU",
    "qI TIMES ASH OVER HI TIMES ASHpKA TIMES BUyKAyU U UzRpLAGAB TIMES ZU OVER ZUrK-003u21v5u30u50",
    "v1u62u79 OVER LAK-079 GUNUu80v1 OVER LAK-081u92t130u42t210v9u20v5v8u38u65v6t343v7v8u83v4u90",
    "t441v9w TIMES GUbdIGIbdPAP PLUS LU3bmPAP PLUS LU3bdU2 PLUS BAu50v7u70u83u90v2v3v5t550t608u17",
    "w TIMES ASHbdBADbdDUN3 GUNU GUNUbdKU3bdLAbdTARbeEbdU2beDbeRUDAu36u48w TIMES DUBbdGAbdIGI",
    "bg GUNUbdNIbdPAP PLUS PAP PLUS LU3bdSHESH PLUS KIbdUDbeRUDAt724u49qU2 GUNU TIMES ASH",
    "tTIMES DISHzHALzPAPbc PLUS PAP PLUS LU3zTAK4pMI PLUS ZA7qUSH OVER MUSH TIMES GAbkKAK",
    "pNINDA2 TIMES DIM GUNUbcGISHbdULbcHIbcKESH2bcLAK-050bcMASHbcPAP PLUS PAPbcUbd PLUS UbdRUDA",
    "pSAG GUNU TIMES HAtTIMES ENzSHE AT LEFTzTAK4qHA6 TENUrE OVER SHEtPLUS HUB2yNAM2ySAR",
    "rU2 PLUS DUG TIMES NIzE2 TIMES ANqI TIMES TAK4pTAK4 PLUS SAGqUM TIMES GAN2 TENUzTHREE DISH",
    "pUR2 INVERTEDtTIMES UDrU TIMES DARA3zLAK-668baU3pZA7qU OVER ZU PLUS SAR",
    "r5 TIMES THREE DISH TENU+2637bYPRO-MINOAN SIGN CM001w2w4w5w6w7w8w9v10w1w2xBw3w5w7w9v21w3w4w5",
    "w6w7w8w9v30w3w4w5w6w7w8w9v40w1w4w6w7w9v50w1w2w3w4w5w6w8w9v60w1w2w3w4w6w7w8w9v70w1w2w3w4w5xBw6",
    "w8w9v80w1w2w3w4w5w6w7w8w9v90w1w2w4w5w6w7w8w9u100w1w2w3w4w5w7w8w9v10w2w4u301w2",
    "+14aEGYPTIAN HIEROGLYPH A001x2x3x4x5yAx6yAyBx7x8x9w10x1x2x3x4yAx5x6x7yAx8x9w20x1x2x3x4x5x6x7",
    "x8x9w30x1x2yAx3x4x5x6x7x8x9w40yAx1x2yAx3yAx4x5yAx6x7x8x9w50x1x2x3x4x5x6x7x8x9w60x1x2x3x4x5x6",
    "x7x8x9w70uB001x2x3x4x5yAx6x7x8x9uC001x2yAyByCx3x4x5x6x7x8x9w10yAx1x2x3x4x5x6x7x8x9w20x1x2x3x4",
    "uD001x2x3x4x5x6x7x8yAx9w10x1x2x3x4x5x6x7x8x9w20x1x2x3x4x5x6x7yAx8x9w30x1yAx2x3x4yAx5x6x7x8x9",
    "w40x1x2x3x4x5x6yAx7x8yAx9w50yAyByCyDyEyFyGyHyIx1x2yAx3x4yAx5x6x7x8x9w60x1x2x3x4x5x6x7yAyByCyD",
    "yEyFyGyHuE001x2x3x4x5x6x7x8yAx9yAw10x1x2x3x4x5x6yAx7yAx8x9w20yAx1x2x3x4x5x6x7x8yAx9w30x1x2x3",
    "x4yAx6x7x8uF001yAx2x3x4x5x6x7x8x9w10x1x2x3yAx4x5x6x7x8x9w20x1yAx2x3x4x5x6x7x8x9w30x1yAx2x3x4",
    "x5x6x7yAx8yAx9w40x1x2x3x4x5yAx6yAx7yAx8x9w50x1yAyByCx2x3uG001x2x3x4x5x6yAx7yAyBx8x9w10x1yAx2",
    "x3x4x5x6x7x8x9w20yAx1x2x3x4x5x6yAx7x8x9w30x1x2x3x4x5x6yAx7yAx8x9w40x1x2x3yAx4x5yAx6x7x8x9w50",
    "x1x2x3x4uH001x2x3x4x5x6yAx7x8uI001x2x3x4x5yAx6x7x8x9yAw10yAx1yAx2x3x4x5uK001x2x3x4x5x6x7x8",
    "uL001x2yAx3x4x5x6yAx7x8uM001yAyBx2x3yAx4x5x6x7x8x9w10yAx1x2yAyByCyDyEyFyGyHx3x4x5yAx6yAx7yAx8",
    "x9w20x1x2yAx3x4yAx5x6x7x8yAx9w30x1yAx2x3yAyBx4x5x6x7x8x9w40yAx1x2x3x4uN001x2x3x4x5x6x7x8x9w10",
    "x1x2x3x4x5x6x7x8yAyBx9w20x1x2x3x4x5yAx6x7x8x9w30x1x2x3yAx4yAx5yAx6x7yAx8x9w40x1x2vL001y2y3y4",
    "y5zAy6y7y8y9x10y1y2y3y4y5y6y7zAy8y9x20vU001y2y3y4y5y6y7y8y9x10zAy1zAy2y3y4y5y6y7y8zAy9x20y1y2",
    "zAuO001yAx2x3x4x5yAx6yAyByCyDyEyFx7x8x9w10yAyByCx1x2x3x4x5x6x7x8x9yAw20yAx1x2x3x4yAx5yAx6x7x8",
    "x9yAw30yAx1x2x3yAx4x5x6yAyByCyDx7x8x9w40x1x2x3x4x5x6x7x8x9w50yAyBx1uP001yAx2x3yAx4x5x6x7x8x9",
    "w10x1uQ001x2x3x4x5x6x7uR001x2yAx3yAyBx4x5x6x7x8x9w10yAx1x2x3x4x5x6yAx7x8x9w20x1x2x3x4x5x6x7x8",
    "x9uS001x2yAx3x4x5x6yAx7x8x9w10x1x2x3x4yAyBx5x6x7yAx8x9w20x1x2x3x4x5x6yAyBx7x8x9w30x1x2x3x4x5",
    "yAx6x7x8x9w40x1x2x3x4x5x6uT001x2x3yAx4x5x6x7yAx8yAx9yAw10x1yAx2x3x4x5x6yAx7x8x9w20x1x2x3x4x5",
    "x6x7x8x9w30x1x2yAx3yAx4x5x6uU001x2x3x4x5x6yAyBx7x8x9w10x1x2x3x4x5x6x7x8x9w20x1x2x3yAx4x5x6x7",
    "x8x9yAw30x1x2yAx3x4x5x6x7x8x9w40x1x2uV001yAyByCyDyEyFyGyHyIx2yAx3x4x5x6x7yAyBx8x9w10x1yAyByC",
    "x2yAyBx3x4x5x6x7x8x9w20yAyByCyDyEyFyGyHyIyJyKyLx1x2x3yAx4x5x6x7x8yAx9yAw30yAx1yAx2x3yAx4x5x6",
    "x7yAx8x9w40yAuW001x2x3yAx4x5x6x7x8x9yAw10yAx1x2x3x4yAx5x6x7yAx8yAx9w20x1x2x3x4yAx5uX001x2x3x4",
    "yAyBx5x6yAx7x8yAuY001yAx2x3x4x5x6x7x8uZ001x2yAyByCyDx3yAyBx4yAx5yAx6x7x8x9w10x1x2x3x4x5yAyByC",
    "yDyEyFyGyHyIx6yAyByCyDyEyFyGyHuAA001y2y3y4y5y6y7zAzBy8y9x10y1y2y3y4y5y6y7y8y9x20y1y2y3y4y5y6",
    "y7y8y9x30y1y2+2uVERTICAL JOINERuHORIZONTAL JOINERuINSERT AT TOP STARTbeBOTTOM STARTbeTOP END",
    "beBOTTOM ENDuOVERLAY MIDDLEuBEGIN SEGMENTuEND SEGMENT+4040aANATOLIAN HIEROGLYPH A001y2y3y4y5",
    "y6y7y8y9x10zAy1y2y3y4y5y6y7y8y9x20y1y2y3y4y5y6zAy7y8y9x30y1y2y3y4y5y6y7y8y9zAx40y1zAy2y3y4y5",
    "zAy6zAzBy7y8y9x50y1y2y3y4y5y6y7y8y9x60y1y2y3y4y5y6zAzBzCy7y8y9x70y1y2y3y4y5y6y7y8y9x80y1y2y3",
    "y4y5y6y7y8y9x90y1y2y3y4y5y6y7zAy8zAy9w100zAy1zAy2zAy3y4zAzBzCy5zAzBy6y7zAzBzCy8y9x10zAzBy1y2",
    "y3y4y5zAy6y7y8y9x20y1y2y3y4y5zAy6y7y8y9x30y1y2y3y4y5zAy6y7y8y9x40y1y2y3y4y5y6y7y8y9x50y1y2y3",
    "y4y5y6y7y8y9x60y1y2y3y4y5y6y7y8y9x70y1y2y3y4y5y6y7y8y9x80y1y2y3y4y5y6y7y8y9x90y1y2y3y4y5y6y7",
    "y8y9w200y1y2zAzBy3y4y5y6y7zAy8y9zAx10y1y2y3y4y5zAy6zAy7y8y9x20y1y2y3y4y5y6y7zAy8y9x30y1y2y3y4",
    "y5y6y7y8y9x40y1y2y3y4y5y6y7y8y9x50y1y2y3y4y5y6y7y8y9x60y1y2y3y4y5y6y7zAy8y9x70y1y2y3y4y5y6y7",
    "y8y9x80y1y2y3y4y5y6y7y8y9zAx90y1y2y3y4zAy5y6y7y8y9zAw300y1y2y3y4y5y6y7y8y9zAx10y1y2y3y4y5y6y7",
    "y8y9x20y1y2y3y4y5y6y7y8y9zAx30y1y2AzBzCy3y4y5y6zAzBzCy7y8y9x40y1y2y3y4y5y6y7y8y9x50y1y2y3y4y5",
    "y6y7y8y9zAx60y1y2y3y4zAy5y6y7y8zAy9x70y1zAy2y3y4y5y6y7y8y9x80y1zAy2y3 RA OR RIzAy4y5y6zAy7y8",
    "y9x90y1y2y3 EIGHTy4y5y6y7y8y9w400y1y2y3y4y5y6y7y8y9x10 BEGIN LOGOGRAM MARK",
    "zA END LOGOGRAM MARKy1y2y3y4y5y6y7y8y9x20y1y2y3y4y5y6y7y8y9x30y1y2y3y4y5y6y7y8y9x40y1y2y3y4y5",
    "y6y7y8y9x50zAy1y2y3y4y5y6y7zAy8y9x60y1y2y3y4y5y6y7y8y9x70y1y2y3y4y5y6y7y8y9x80y1y2y3y4y5y6y7",
    "y8y9x90y1y2y3y4y5y6y7w501y2y3y4y5y6y7y8y9x10y1y2y3y4y5y6y7y8y9x20y1y2y3y4y5y6y7y8y9x30",
    "+8634aBAMUM LETTER PHASE-A NGKUE MFONvGBIEE FONvPON MFON PIPAEMGBIEEbkBAvNAA MFONvSHUENSHUET",
    "vTITA MFONvNZA MFONvSHINDA PA NJIvPON PA NJI PIPAEMGBIEEbmBAvMAEMBGBIEEvTU MAEMBAvNGANGU",
    "vMAEMVEUXxNSUAEwVEUAENGAMvSEUNYAMvNTOQPENvKEUKEUTNDAvNKINDIvSUUvNGKUENZEUMvLAPAQwET KUT",
    "vNTAP MFAAvMAEKEUPvPASHAEvGHEUAERAEvPAMSHAEvMON NGGEUAETvNZUN MEUTvU YUQ NAEvGHEUAEGHEUAE",
    "vNTAP NTAAvSISAvMGBASAwEUNJOMNDEUQwOOMPUQvKAFAvPA LEERAEWAvNDA LEERAEWAvPETvMAEMKPENvNIKAvPUP",
    "vTUAEPvLUAEPvSONJAMvTEUTEUWENvMAENYIvKETvNDAANGGEUAETvKUOQvMOOMEUTvSHUMvLOMMAEvFIRIvROMvKPOQ",
    "vSOQvMAP PIEETvSHIRAEvNTAPvSHOQ NSHUT YUMvNYIT MONGKEUAEQvPAARAEvNKAARAEvUNKNOWNvNGGENvMAESI",
    "vNJAMvMBANYIvNYETvTEUAENvSOTvPAAMvNSHIEEvMAEMvNYIvKAQvNSHAvVEEvLUvNENwAQvMBAQtB NSHUET",
    "vTU MAEMGBIEEvSIEEwET TUvLOM NTEUMvMBA MAELEEvKIEEMvYEURAEvMBAARAEvKAMvPEESHIvYAFU LEERAEWA",
    "vLAM NSHUT NYAMvNTIEE SHEUOQwDU NJAAvGHEUGHEUAEMvPITvTU NSIEEvSHET NJAQyUAEQTUvMFON TEUAEQ",
    "wBIT MBAAKETvNYI NTEUMvKEUPUQvGHEUGHENvKEUYEUXvLAANAEvPARUMvVEUMvNGKINDI MVOPxGEU MBUvWUAET",
    "vSAKEUAEvTAAMvMEUQvNGGUOQbb LARGEvMFIYAQvSUEvMBEURIwONTIEENvNYAEMAEvPUNGAAMvMEUT NGGEETvFEUX",
    "vMBUOQvFEEvKEUAEMvMA NJEUAENAbaUQAvLETvNGGAAMwSENvMAvKIQvNGOMtC NGKUE MAEMBAwZAvYUMvWANGKUOQ",
    "vNGGENwDEUAEREEwGKAQvGHARAEvMBEEKEETvGBAYIvNYIR MKPARAQ MEUNwTU MBITvMBEUMvPIRIEENvNDOMBU",
    "vMBAA CABBAGE-TREEvKEUSHEUAEPvGHAPvKEUKAQvYU MUOMAEvNZEUMvMBUEvNSEUAENvMBITvYEUQvKPARAQwAA",
    "vSEUXvNDIDAvTAASHAEvNJUEQvTITA YUEvSUAETvNGGUAEN NYAMvVEUXvNANSANAQvMA KEUAERIvNTAAwGGUONvLAP",
    "vMBIRIEENwGBASAQvNTEUNGBAvTEUTEUXvNGGUMvFUEvNDEUTwSAxHAQvBUNGvVEUAEPENvMBERAEvRUvNJAEMvLAM",
    "vTITUAEPvNSUOT NGOMwJEEEEvKETvNGGUvMAESIwBUAEMvLUvKUTvNJAMwGOMvWUPvNGGUEETwSOMwTEN",
    "vKUOP NKAARAEvNSUNwDAMvMA NSIEEvYAAvNDAPvSHUEQwETFONvMBIwAEMBAwBANYIvKEUSEUXvMBEUXvKEUM",
    "vMBAA PICKETvYUWOQvNJEUXvMIEEwUAEvSHIQvKEN LAWzFATIGUEvNGAQwAQvLIQvPINwENvTETtD MBUOvWAPvNJI",
    "vMFONvNJIEEvLIEEvNJEUTwSHEEwGGAAMAEwYAMvWUAENvNGKUNvSHEEvNGKAPvKEUAETMEUNvTEUTvSHEUAEvNJAP",
    "vSUEvKETvYAEMMAEvKUOMvSAPvMFEUTvNDEUXvMALEERIwEUTvSEUAEQvYENvNJEUAEMvKEUOT MBUAEvNGKEURIvTU",
    "vGHAAvNGKYEEvFEUFEUAETvNDEEvMGBOFUMvLEUAEPvNDONvMONIwGBEUNvPUUTvMGBIEEwFOvLUMvNSIEEPvMBAA",
    "vKWAETvNYETvTEUAENvSOTvYUWOQvKEUMvRAEMvTEEEEvNGKEUAEQvMFEUAEvNSIEETvKEUPvPIPwEUTAEvNYUEvLET",
    "vNGGAAMvMFIEEvNGGWAENvYUOMvPAPvYUOPvNDAMwTEUMvSUAEvKUNvNGGEUXxKIEEvTUOTvMEUNvKUQvNSUMvTEUN",
    "vMAENJETvNGGAPvLEUMvNGGUOMwSHUTwJUEQvGHEUAEvKUvREN OLDvTAEwOQvNYIvRIIvLEEEEvMEEEEw+1vSUUvMU",
    "vSHIIxEUXvKYEEvNUvSHUvNTEEvPEEvNIvSHOQvPUQvMVOPvLOQvREN MUCHvTIvNTUUvMBAA SEVENvSAQvFAA",
    "tE NDAPvTOONvMBEUMvLAPvVOMvLOONvPAAvSOMvRAQvNSHUOPwDUNvPUAEvTAMvNGKAvKPEUXvWUOvSEEvNGGEUAET",
    "vPAAMvTOOvKUOPvLOMvNSHIEEwGOPvMAEMvNGKEUXxOQwSHUEvRIMGBAvNJEUXvPEEMvSAAvNGGURAEvMGBAvGHEUX",
    "vNGKEUAEMwJAEMLIvMAPvLOOTvNGGEEEEwDIQvTAEN NTEUMvSETvPUMvNDAA SOFTNESSwGGUAESHAE NYAMvYIEE",
    "vGHEUNvTUAEvYEUAEvPOvTUMAEvKEUAEvSUAENvTEUAEQvVEUAEvWEUXvLAAMvPUvTAAQvGHAAMAEvNGEUREUT",
    "vSHEUAEQvMGBENwBEEvNZAQwKOMvGBETvTUMvKUETvYAPvNYI CLEAVERvYITvMFEUQvNDIAQvPIEEQvYUEQvLEUAEM",
    "vFUEvGBEUXvNGKUPvKETvMAEvNGKAAMIvGHETvFAvNTUMvPEUTvYEUMvNGGEUAEwYI BETWEENwZUQvPOONvMIEEvFUET",
    "vNAEvMUAEvGHEUAEvFU IvMVIvPUAQvNGKUMvKUTvPIETvNTAPvYEUAETvNGGUPvPA PEOPLEvFU CALLwOMvNJEEvA",
    "vTOQvOvIvLAQvPA PLURALvTAAxQvNDAA MY HOUSEvSHIQvYEUXvNGUAEvYUAENwOQ SWIMMINGzCOVERwUQxNvKEUX",
    "vPEUXvNJEE EPOCHvPUEvWUEvFEEvVEEvLUvMIvREUXwAEvNGUAETxAvSHOyQvFU REMEDYvNAvPIvLOQvKOvMENwAxQ",
    "vTEUvKIvMONvTENvFAQvGHOMtF KAvUvKUvEEvREEvTAEvNYIvLAvRIIxEEvMEEEEvTAAvNDAAwJAEMvMvSUUwHIIwI",
    "wEUXvKYEEwETvNUAEx+1wJUAEvYOQvSHUvYAvNSHAvPEUXvNTEEvWUEvPEEvRUvNIvREUXvKENvNGKWAENxGAvSHO",
    "vPUAEvFOMvWAvLIwOQvKOvMBENvRENvMAwOwBAAvTETvKPAvSAMBAvVUEQ+8aMRO LETTER TAlNGIlYOlMIMlBAlDAlA",
    "lPHIlKHAIlHAOlDAIlCHUlKEAAElOLlMAEMlNINlPAlOOm+1lROlSHIlTHEAlEAlWAlElKOlLANn+1lHAIlRIlTEK",
    "+2eDIGIT ZEROkONEkTWOlHREEkFOURlIVEkSIXlEVENkEIGHTkNINE+5fANDAfOUBLE DANDAaTANGSA LETTER OZpC",
    "pQpXoAZpCpQpXoVZpCpQpXoEZpCpQpXoIZpCpQpXoUZpCpQpXoAWZqCqQqXoUIZqCqQqXoFINAL NGoLONG UEX",
    "oSHORT UEZuAWXoUECqZqQqXpIUZrCrQrXoMZpCpQpXoKApHAoGAoNGAoSAoYAoWAoPAoNYAoPHAoBAoMAoNAoHAoLA",
    "oHTAoTAoDAoRAoNHAoSHAoCAoTSAoGHAoHTTAoTHAoXAoFAoDHAoCHAoZA+2hDIGIT ZEROnONEnTWOoHREEnFOURoIVE",
    "nSIXoEVENnEIGHTnNINE+7aBASSA VAH LETTER ENNIrKArSErFArMBErYIErGAHrDHIIrKPAHrJOrHWAHrWArZOrGBU",
    "rDOrCErUWUrTOrBArVUrYEINrPArWADDArArOsOrUrEEs+1rI+3kCOMBINING HIGH TONEuLOW TONEuMID TONE",
    "uLOW-MID TONEuHIGH-LOW TONEkFULL STOP+11aPAHAWH HMONG VOWEL KEEBwVuIBvVuAUBwVuUBvVuEBvVuAIBwV",
    "uOOBwVuAWBwVuUABwVuOBvVuIABwVuABvVuWBvVuAABwVnCONSONANT VAUxNTSAUxLAUxHAUxNLAUxRAUxNKAUxQHAU",
    "xYAUxHLAUxMAUxCHAUxNCHAUxHNAUxPLHAUxNTHAUyAUxAUxXAUxCAUnMARK CIM TUBwSOwKESxHAVwSUAMwHOMwTAUM",
    "nSIGN VOS THOMxSHAB CEEBsCIM CHEEMsVOS THIABwFEEMsXYEEM NTXIVyRHOyTOVyFAIBsVOS SEEVsMEEJ SUAB",
    "sVOS NRUAsIB YAMsXAUSsCIM TSOV ROG+11nDIGIT ZEROtONEtTWOuHREEtFOURuIVEtSIXuEVENtEIGHTtNINE",
    "+2nNUMBER TENSuHUNDREDSuTEN THOUSANDSuMILLIONSuHUNDRED MILLIONSuTEN BILLIONSvRILLIONS",
    "+2nSIGN VOS LUBsXYOOsHLIsTHIRD-STAGE HLIsZWJ THAJsHNUBsNQIGsXIABsNTUJsAVsTXHEEJ CEEV",
    "sMEEJ TSEEBsTAUsLOSsMUSsCIM HAIS LUS NTOG NTOGwCUAM TSHOOJwTXWVba CHWVwPUB DAWBwNRES TOS",
    "+6nCLAN SIGN TSHEEJxYEEGxLISyAUJxXYOOJxKOOxHAWJxMUASxTHOJySABxPHABxKHABxHAMxVAJxFAJxYAJxTSWB",
    "xKWMxVWJ+689aMEDEFAIDRIN CAPITAL LETTER MbbSbbVbbWbbATIUbbZbbKPbbPbbTbbGbbFbbIbbKbbAbbJbbEbbB",
    "bbCbbUbbYUbbLbbQbbH+0bcPbbNG+0bcYbbXbbDbbOEbbNbbRbbObbAIbbYmSMALL LETTER MzSzVzWzATIUzZzKPzP",
    "zTzGzFzIzKzAzJzEzBzCzUzYUzLzQzH+0baPzNG+0baYzXzDzOEzNzRzOzAIzYmDIGIT ZEROsONEsTWOtHREEsFOUR",
    "tIVEsSIXtEVENsEIGHTsNINEmNUMBER TENtELEVENtTWELVEuHIRTEENtFOURTEENuIFTEENtSIXTEENuEVENTEEN",
    "tEIGHTEENtNINETEENmDIGIT ONE ALTERNATE FORMsTWO ALTERNATE FORMtHREE ALTERNATE FORMmCOMMA",
    "mFULL STOPmSYMBOL AIVAmEXCLAMATION OH+102bIAO LETTER PAmBAmYI PAmPLAmMAnHAmARCHAIC MAmFAmVA",
    "nFAmTAmDAmYI TTAqAmTTAmDDAmNAnHAmYI NNAmARCHAIC NAmNNAoHAmLAnYAnHAoYAmTLHAmDLHAmTLHYAmDLHYA",
    "mKAmGAmYI KAmQAnGAmNGAoHAmARCHAIC NGAmHAmXAmGHAoHAmTSSAmDZZAmNYAoHAmTSHAmDZHAmYI TSHApDZHA",
    "mREFORMED TSHAmSHAnSAmZHAnSHAmTSAmDZAmYI TSAmSAmZAnSAnZAoSAmARCHAIC ZZAmZZYAoSYAmWAmAHmHHA",
    "mBRImSYImDZYImTEnSEmRTE+5fSIGN CONSONANT MODIFIER BARfLETTER NASALIZATIONfSIGN ASPIRATION",
    "kREFORMED VOICINGtASPIRATIONfVOWEL SIGN ArArHHrNsGqOrOqWOr+1qErNsGqOEYqIrAsNtGrOrErIrUrNGqUrA",
    "sNtGrUrEIrNGqYrIqAEsEqERRqROUNDED ERRqERqROUNDED ERqAIqEIqAUqOUqNrGqUOGqYUIqOGrERqVWqIGqEA",
    "qIONGqUI+8fTONE RIGHTkTOP RIGHTkABOVEkBELOWfLETTER TONE-2r3r4r5r6r7r8mREFORMED TONE-1ba2ba4",
    "ba5ba6ba8+65aTANGUT ITERATION MARKaNUSHU ITERATION MARKaOLD CHINESE HOOK MARKmITERATION MARK",
    "aKHITAN SMALL SCRIPT FILLER+12aVIETNAMESE ALTERNATE READING MARK CAbiNHAY",
    "+6159aTANGUT COMPONENT-001t2t3t4t5t6t7t8t9s10t1t2t3t4t5t6t7t8t9s20t1t2t3t4t5t6t7t8t9s30t1t2t3",
    "t4t5t6t7t8t9s40t1t2t3t4t5t6t7t8t9s50t1t2t3t4t5t6t7t8t9s60t1t2t3t4t5t6t7t8t9s70t1t2t3t4t5t6t7",
    "t8t9s80t1t2t3t4t5t6t7t8t9s90t1t2t3t4t5t6t7t8t9r100t1t2t3t4t5t6t7t8t9s10t1t2t3t4t5t6t7t8t9s20",
    "t1t2t3t4t5t6t7t8t9s30t1t2t3t4t5t6t7t8t9s40t1t2t3t4t5t6t7t8t9s50t1t2t3t4t5t6t7t8t9s60t1t2t3t4",
    "t5t6t7t8t9s70t1t2t3t4t5t6t7t8t9s80t1t2t3t4t5t6t7t8t9s90t1t2t3t4t5t6t7t8t9r200t1t2t3t4t5t6t7t8",
    "t9s10t1t2t3t4t5t6t7t8t9s20t1t2t3t4t5t6t7t8t9s30t1t2t3t4t5t6t7t8t9s40t1t2t3t4t5t6t7t8t9s50t1t2",
    "t3t4t5t6t7t8t9s60t1t2t3t4t5t6t7t8t9s70t1t2t3t4t5t6t7t8t9s80t1t2t3t4t5t6t7t8t9s90t1t2t3t4t5t6",
    "t7t8t9r300t1t2t3t4t5t6t7t8t9s10t1t2t3t4t5t6t7t8t9s20t1t2t3t4t5t6t7t8t9s30t1t2t3t4t5t6t7t8t9",
    "s40t1t2t3t4t5t6t7t8t9s50t1t2t3t4t5t6t7t8t9s60t1t2t3t4t5t6t7t8t9s70t1t2t3t4t5t6t7t8t9s80t1t2t3",
    "t4t5t6t7t8t9s90t1t2t3t4t5t6t7t8t9r400t1t2t3t4t5t6t7t8t9s10t1t2t3t4t5t6t7t8t9s20t1t2t3t4t5t6t7",
    "t8t9s30t1t2t3t4t5t6t7t8t9s40t1t2t3t4t5t6t7t8t9s50t1t2t3t4t5t6t7t8t9s60t1t2t3t4t5t6t7t8t9s70t1",
    "t2t3t4t5t6t7t8t9s80t1t2t3t4t5t6t7t8t9s90t1t2t3t4t5t6t7t8t9r500t1t2t3t4t5t6t7t8t9s10t1t2t3t4t5",
    "t6t7t8t9s20t1t2t3t4t5t6t7t8t9s30t1t2t3t4t5t6t7t8t9s40t1t2t3t4t5t6t7t8t9s50t1t2t3t4t5t6t7t8t9",
    "s60t1t2t3t4t5t6t7t8t9s70t1t2t3t4t5t6t7t8t9s80t1t2t3t4t5t6t7t8t9s90t1t2t3t4t5t6t7t8t9r600t1t2",
    "t3t4t5t6t7t8t9s10t1t2t3t4t5t6t7t8t9s20t1t2t3t4t5t6t7t8t9s30t1t2t3t4t5t6t7t8t9s40t1t2t3t4t5t6",
    "t7t8t9s50t1t2t3t4t5t6t7t8t9s60t1t2t3t4t5t6t7t8t9s70t1t2t3t4t5t6t7t8t9s80t1t2t3t4t5t6t7t8t9s90",
    "t1t2t3t4t5t6t7t8t9r700t1t2t3t4t5t6t7t8t9s10t1t2t3t4t5t6t7t8t9s20t1t2t3t4t5t6t7t8t9s30t1t2t3t4",
    "t5t6t7t8t9s40t1t2t3t4t5t6t7t8t9s50t1t2t3t4t5t6t7t8t9s60t1t2t3t4t5t6t7t8",
    "+9457aKATAKANA LETTER MINNAN TONE-2bc3bc4bc5+2bc7bc8xNASALIZED TONE-1bm2bm3bm4bm5+2bm7bm8",
    "+2qARCHAIC EaHENTAIGANA LETTER E-1+0bIRAGANA LETTER ARCHAIC YEbENTAIGANA LETTER A-1u2u3uWO",
    "sI-1u2u3u4sU-1u2u3u4u5sE-2u3u4u5u6sO-1u2u3sKA-1v2v3v4v5v6v7v8v9v10w1vKEtI-1v2v3v4v5v6v7v8tU-1",
    "v2v3v4v5v6v7tE-1v2v3v4v5v6tO-1v2v3vKIsSA-1v2v3v4v5v6v7v8tI-1v2v3v4v5v6tU-1v2v3v4v5v6v7v8tE-1",
    "v2v3v4v5tO-1v2v3v4v5v6v7sTA-1v2v3v4tI-1v2v3v4v5v6v7tU-1v2v3v4vTOtE-1v2v3v4v5v6v7v8v9tO-1v2v3",
    "v4v5v6vRAsNA-1v2v3v4v5v6v7v8v9tI-1v2v3v4v5v6v7vTEtU-1v2v3tE-1v2v3v4v5v6vKOtO-1v2v3v4v5sHA-1v2",
    "v3v4v5v6v7v8v9v10w1tI-1v2v3v4v5v6v7tU-1v2v3tE-1v2v3v4v5v6v7tO-1v2v3v4v5v6v7v8sMA-1v2v3v4v5v6",
    "v7tI-1v2v3v4v5v6v7tU-1v2v3v4tE-1v2vMAtO-1v2v3v4v5v6sYA-1v2v3v4v5vYOtU-1v2v3v4tO-1v2v3v4v5v6",
    "sRA-1v2v3v4tI-1v2v3v4v5v6v7tU-1v2v3v4v5v6tE-1v2v3v4tO-1v2v3v4v5v6sWA-1v2v3v4v5tI-1v2v3v4v5",
    "tE-1v2v3v4tO-1v2v3v4v5v6v7sN-MU-MO-1ba2bIRAGANA LETTER ARCHAIC WUaKATAKANA LETTER ARCHAIC YI",
    "zEyWU+46aHIRAGANA LETTER SMALL WIxExO+18aKATAKANA LETTER SMALL WIxExOwN",
    "+2713aDUPLOYAN LETTER HqXqPqTqFqKqLqBqDqVqGqRqP NqD SqF NqK MqR SqTHqSLOAN DHqDHqKKqSLOAN J",
    "qHLqLHqRHqMqNqJqSqM NqN MqJ MqS JqM WITH DOTqN WITH DOTqJ WITH DOTbaS INSIDE AND ABOVE",
    "qS WITH DOTba BELOWqM SqN SqJ SqS SqM N SqN M SqJ M SqS J SqJ S WITH DOTsNt SqS Tt RsPt RqT S",
    "sR SqWrHr RqS NsMqK R SqG R SqS Kt RqAqSLOAN OWqOAr+1qAOUqIqEqIEqSHORT IqUIqEEqSLOAN EH",
    "qROMANIAN IqSLOAN EEqLONG IqYEqUqEUqXWqU NqLONG UqROMANIAN UqUHqSLOAN UqOOHrWrUqWArOrIrEIrOW",
    "qNASAL UwOwIwAqPERNIN ANyMqSLOAN ENwANwONqVOCALIC M+6jAFFIX LEFT HORIZONTAL SECANT",
    "pMID HORIZONTAL SECANTpRIGHT HORIZONTAL SECANTpLOW VERTICAL SECANTpMID VERTICAL SECANT",
    "pHIGH VERTICAL SECANTpATTACHED SECANTyLEFT-TO-RIGHT SECANTyTANGENTbaILyE HOOKyI HOOK",
    "yTANGENT HOOK+4pHIGH ACUTEuTIGHT ACUTEuGRAVEuLONG GRAVEuDOTuCIRCLEuLINEuWAVEuVERTICAL",
    "+8pLOW ACUTEtTIGHT ACUTEtGRAVEtLONG GRAVEtDOTtCIRCLEtLINEtWAVEtVERTICALtARROW",
    "+3jSIGN O WITH CROSSjTHICK LETTER SELECTORjDOUBLE MARKjPUNCTUATION CHINOOK FULL STOP",
    "aSHORTHAND FORMAT LETTER OVERLAPrCONTINUING OVERLAPrDOWN STEPrUP STEP",
    "+4701aZNAMENNY COMBINING MARK GORAZDO NIZKO S KRYZHEM ON LEFTyNIZKO S KRYZHEM ON LEFT",
    "yTSATA ON LEFTyGORAZDO NIZKO ON LEFTyNIZKO ON LEFTySREDNE ON LEFTyMALO POVYSHE ON LEFT",
    "yPOVYSHE ON LEFTyVYSOKO ON LEFTyMALO POVYSHE S KHOKHLOM ON LEFTyPOVYSHE S KHOKHLOM ON LEFT",
    "yVYSOKO S KHOKHLOM ON LEFTyGORAZDO NIZKO S KRYZHEM ON RIGHTyNIZKO S KRYZHEM ON RIGHT",
    "yTSATA ON RIGHTyGORAZDO NIZKO ON RIGHTyNIZKO ON RIGHTySREDNE ON RIGHTyMALO POVYSHE ON RIGHT",
    "yPOVYSHE ON RIGHTyVYSOKO ON RIGHTyMALO POVYSHE S KHOKHLOM ON RIGHT",
    "yPOVYSHE S KHOKHLOM ON RIGHTyVYSOKO S KHOKHLOM ON RIGHTyTSATA S KRYZHEM",
    "yMALO POVYSHE S KRYZHEMySTRANNO MALO POVYSHEyPOVYSHE S KRYZHEMbhTRANNOyVYSOKO S KRYZHEM",
    "yMALO POVYSHE STRANNOyGORAZDO VYSOKOyZELOyONyRAVNOyTIKHAYAyBORZAYAyUDARKAyPODVERTKAyLOMKA",
    "yKUPNAYAzACHKAyZEVOKySKOBAyRAZSEKAyKRYZH ON LEFT+3tTONAL RANGE MARK MRACHNObkSVETLO",
    "bkTRESVETLOtMARK ZADERZHKAyDEMESTVENNY ZADERZHKAyOTSECHKAyPODCHASHIEbi WITH VERTICAL STROKE",
    "yCHASHKAbf POLNAYAyOBLACHKOySOROCHYA NOZHKAyTOCHKAyDVOETOCHIEtATTACHING VERTICAL OMET",
    "tMARK CURVED OMETyKRYZHtLOWER TONAL RANGE INDICATORjPRIZNAK MODIFIER LEVEL-2bg3",
    "baDIRECTION FLIPbaKRYZHbaROG+10jNEUME KRYUKu TIKHYpPARAKLITpDVA V CHELNUpKLYUCHpZANOZHEK",
    "pSTOPITSAx S OCHKOMpPEREVODKAy NEPOSTOYANNAYApSTOPITSA WITH SOROCHYA NOZHKApCHELYUSTKApPALKA",
    "pZAPYATAYApGOLUBCHIK BORZYzTIKHYzMRACHNYzSVETLYzTRESVETLYpVRAKHIYA PROSTAYAyMRACHNAYA",
    "ySVETLAYAyTRESVETLAYAyKLYUCHEVAYA PROSTAYAbkMRACHNAYAbkSVETLAYAbkTRESVETLAYApDOUBLE ZAPYATAYA",
    "pREVERSED CHELYUSTKApDERBITSApKHAMILOpCHASHKApPODCHASHIEpSKAMEYTSA MRACHNAYAzSVETLAYA",
    "zTRESVETLAYAbaIKHAYApDEMESTVENNY KLYUCHpSKAMEYTSA KLYUCHEVAYA SVETLAYAbgNEPOSTOYANNAYA",
    "bgVAYA TIKHAYAzDVOECHELNAYA PROSTAYAbmSVETLAYAbmNEPOSTOYANNAYAbmKLYUCHEVAYAqLOZHITIE",
    "y S ZAPYATOYzZAKRYTOEzS KRYZHEMpKRYZHpROGpFITApKOBYLApZMEYTSApSTATYAv S ZAPYATOYyKRYZHEM",
    "yZAPYATOY I KRYZHEMyKRYZHEM I ZAPYATOYwZAKRYTAYAbf S ZAPYATOYwS ROGOMyDVUMYA ZAPYATYMI",
    "yZAPYATOY I PODCHASHIEMpPOLKULIZMYpSTATYA NEPOSTOYANNAYArRELA PROSTAYAwMRACHNOTIKHAYA",
    "wKRYZHEVAYAwPOLUPOVODNAYAyVODNAYAwNEPOSTOYANNAYAwKLYUCHEPOVODNAYAbdNEPOSTOYANNAYA",
    "wTIKHAYA PUTNAYAwDVOECHELNAYAbfOKRYZHEVAYAbgPOVODNAYAbfAYA KLYUCHEVAYA",
    "bfOPOVODNAYA KLYUCHEVAYAwGROMNAYA WITH SINGLE ZAPYATAYAbaOPOVODNAYA WITH SINGLE ZAPYATAYA",
    "baNAYAbaOPOVODNAYAbk WITH DOUBLE ZAPYATAYAbbKRYZHEVAYAbl POVODNAYApMECHIKv POVODNYwKLYUCHEVOY",
    "bdPOVODNYbdNEPOSTOYANNYpSTRELA TRYASOGLASNAYAbcPOVODNAYAbcSTRELNAYApOSOKAu SVETLAYA",
    "vTRESVETLAYAvKRYUKOVAYA SVETLAYAwLYUCHEVAYA SVETLAYAbhNEPOSTOYANNAYApSTRELA KRYUKOVAYA",
    "bg POVODNAYAbhGROMNAYA WITH SINGLE ZAPYATAYAblOPOVODNAYA WITH SINGLE ZAPYATAYAblNAYA",
    "blOPOVODNAYAbv WITH DOUBLE ZAPYATAYAbmKRYZHEVAYAbw POVODNAYAbhTRYASKApKUFISMApOBLAKOpDUDA",
    "pNEMKApPAUK+61aBYZANTINE MUSICAL SYMBOL PSILIzDASEIAzPERISPOMENIzOXEIA EKFONITIKONbfDIPLI",
    "zVAREIA EKFONITIKONbgDIPLIzKATHISTIzSYRMATIKIzPARAKLITIKIzYPOKRISISbi DIPLIzKREMASTI",
    "zAPESO EKFONITIKONzEXO EKFONITIKONzTELEIAzKENTIMATAzAPOSTROFOSbj DIPLIzSYNEVMAzTHITA",
    "zOLIGON ARCHAIONzGORGON ARCHAIONzPSILONzCHAMILONzVATHYzISON ARCHAIONzKENTIMA ARCHAION",
    "bgTA ARCHAIONzSAXIMATAzPARICHONzSTAVROS APODEXIAzOXEIAI ARCHAIONzVAREIAI ARCHAION",
    "zAPODERMA ARCHAIONbcTHEMAzKLASMAzREVMAzPIASMA ARCHAIONzTINAGMAzANATRICHISMAzSEISMA",
    "baYNAGMA ARCHAIONbhMETA STAVROUzOYRANISMA ARCHAIONzTHEMAzLEMOIzDYOzTRIAbaESSERAzKRATIMATA",
    "zAPESO EXO NEOzFTHORA ARCHAIONzIMIFTHORAzTROMIKON ARCHAIONzKATAVA TROMIKONzPELASTONbaSIFISTON",
    "zKONTEVMAzCHOREVMA ARCHAIONzRAPISMAzPARAKALESMA ARCHAIONbeLITIKI ARCHAIONzICHADINzNANA",
    "zPETASMAzKONTEVMA ALLOzTROMIKON ALLOzSTRAGGISMATAzGRONTHISMATAzISON NEOzOLIGON NEObaXEIA NEO",
    "zPETASTIzKOUFISMAzPETASTOKOUFISMAzKRATIMOKOUFISMAzPELASTON NEOzKENTIMATA NEO ANObg NEO ANO",
    "zYPSILIzAPOSTROFOS NEObiI SYNDESMOS NEOzYPORROIzKRATIMOYPORROONzELAFRONzCHAMILIzMIKRON ISON",
    "zVAREIA NEOzPIASMA NEObaSIFISTON NEOzOMALONzANTIKENOMAzLYGISMAzPARAKLITIKI NEObeALESMA NEO",
    "zETERON PARAKALESMAzKYLISMAzANTIKENOKYLISMAzTROMIKON NEOzEKSTREPTONzSYNAGMA NEObbRMA",
    "zCHOREVMA NEOzEPEGERMAzSEISMA NEOzXIRON KLASMAzTROMIKOPSIFISTONzPSIFISTOLYGISMA",
    "zTROMIKOLYGISMAbgPARAKALESMAzPSIFISTOPARAKALESMAzTROMIKOSYNAGMAzPSIFISTOSYNAGMA",
    "zGORGOSYNTHETONzARGOSYNTHETONzETERON ARGOSYNTHETONzOYRANISMA NEOzTHEMATISMOS ESObmXObe APLOUN",
    "bcS KAI APOTHESzKATAVASMAzENDOFONONzYFEN KATObeANOzSTAVROSzKLASMA ANOzDIPLI ARCHAION",
    "zKRATIMA ARCHAIONbiLLObhNEOzAPODERMA NEObbLIzDIPLIzTRIPLIbaETRAPLIzKORONIS",
    "zLEIMMA ENOS CHRONOUbgDYO CHRONONbgTRION CHRONONbhESSARON CHRONONbgIMISEOS CHRONOU",
    "zGORGON NEO ANObgPARESTIGMENON ARISTERAbuDEXIAzDIGORGONbh PARESTIGMENON ARISTERA KATOcfANO",
    "bwDEXIAzTRIGORGONzARGONzIMIDIARGONzDIARGONzAGOGI POLI ARGIbfARGOTERIbiIbfMETRIAbhSIbfGORGI",
    "bjOTERIbfPOLI GORGIzMARTYRIA PROTOS ICHOSbiALLI PROTOS ICHOSbiDEYTEROS ICHOS",
    "biALLI DEYTEROS ICHOSbiTRITOS ICHOSblFONIASbjETARTOS ICHOSbrLEGETOS ICHOSbiLEGETOS ICHOS",
    "biPLAGIOS ICHOSzISAKIA TELOUS ICHIMATOSzAPOSTROFOI TELOUS ICHIMATOSzFANEROSIS TETRAFONIAS",
    "bjMONOFONIASbjDIFONIASzMARTYRIA VARYS ICHOSbiPROTOVARYS ICHOSbjLAGIOS TETARTOS ICHOS",
    "zGORTHMIKON N APLOUNbmDIPLOUNzENARXIS KAI FTHORA VOUzIMIFONONbdTHORON",
    "zFTHORA ARCHAION DEYTEROU ICHOUbgDIATONIKI PAbqNANAbgNAOS ICHOSbgDIATONIKI DI",
    "bgSKLIRON DIATONON DIbgDIATONIKI KEbqZObqNI KATObtANObgMALAKON CHROMA DIFONIASbvMONOFONIAS",
    "baHTORA SKLIRON CHROMA VASIS+0baTHORA SKLIRON CHROMA VASISbvSYNAFIbgNENANOzCHROA ZYGOS",
    "bfKLITONbfSPATHIzFTHORA I YFESIS TETARTIMORIONbgENARMONIOS ANTIFONIAzYFESIS TRITIMORION",
    "zDIESIS TRITIMORIONbhETARTIMORIONbgAPLI DYO DODEKATAbgMONOGRAMMOS TESSERA DODEKATA",
    "bgDIGRAMMOS EX DODEKATAbgTRIGRAMMOS OKTO DODEKATAzYFESIS APLI DYO DODEKATA",
    "bgMONOGRAMMOS TESSERA DODEKATAbgDIGRAMMOS EX DODEKATAbgTRIGRAMMOS OKTO DODEKATAzGENIKI DIESIS",
    "bgYFESISzDIASTOLI APLI MIKRIboEGALIbiDIPLIbiTHESEOSzSIMANSIS THESEOSbp DISIMOUbqTRISIMOU",
    "brETRASIMOUbiARSEOSbo DISIMOUbpTRISIMOUbqETRASIMOUzDIGRAMMA GGbbFTOGGOS OUzSTIGMAzARKTIKO PA",
    "bhVOUbhGAbhDIbhKEbhZObhNIzKENTIMATA NEO MESObg NEO MESObgTA NEO KATObg NEO KATObaLASMA KATO",
    "zGORGON NEO KATO+11aMUSICAL SYMBOL SINGLE BARLINEpDOUBLE BARLINEpFINAL BARLINE",
    "pREVERSE FINAL BARLINEpDASHED BARLINEpSHORT BARLINEpLEFT REPEAT SIGNpRIGHT REPEAT SIGN",
    "qEPEAT DOTSpDAL SEGNOr CAPOpSEGNOpCODApREPEATED FIGURE-1bf2bf3pFERMATAw BELOWpBREATH MARK",
    "pCAESURApBRACEtKETpONE-LINE STAFFpTWO-LINE STAFFqHREE-LINE STAFFpFOUR-LINE STAFF",
    "qIVE-LINE STAFFpSIX-LINE STAFFtSTRING FRETBOARDpFOUR-STRING FRETBOARDpG CLEFv OTTAVA ALTA",
    "bdBASSApC CLEFpF CLEFv OTTAVA ALTAbdBASSApDRUM CLEF-1z2+3pMULTIPLE MEASURE RESTpDOUBLE SHARP",
    "wFLATpFLAT UPuDOWNpNATURAL UPxDOWNpSHARP UPvDOWNpQUARTER TONE SHARPbcFLATpCOMMON TIMEqUT TIME",
    "pOTTAVA ALTAwBASSApQUINDICESIMA ALTAbcBASSApMULTI RESTpWHOLE RESTpHALF RESTpQUARTER REST",
    "pEIGHTH RESTpSIXTEENTH RESTpTHIRTY-SECOND RESTpSIXTY-FOURTH REST",
    "pONE HUNDRED TWENTY-EIGHTH RESTpX NOTEHEADpPLUS NOTEHEADpCIRCLE X NOTEHEAD",
    "pSQUARE NOTEHEAD WHITEbfBLACKpTRIANGLE NOTEHEAD UP WHITEbkBLACKbhLEFT WHITEbmBLACK",
    "bhRIGHT WHITEbnBLACKbhDOWN WHITEbmBLACKbhUP RIGHT WHITEbqBLACKpMOON NOTEHEAD WHITEbdBLACK",
    "pTRIANGLE-ROUND NOTEHEAD DOWN WHITEbsBLACKpPARENTHESIS NOTEHEADpVOID NOTEHEADpNOTEHEAD BLACK",
    "qULL NOTEHEADpCLUSTER NOTEHEAD WHITEbgBLACKpBREVEpWHOLE NOTEpHALF NOTEpQUARTER NOTE",
    "pEIGHTH NOTEpSIXTEENTH NOTEpTHIRTY-SECOND NOTEpSIXTY-FOURTH NOTE",
    "pONE HUNDRED TWENTY-EIGHTH NOTEpCOMBINING STEMbaPRECHGESANG STEMzTREMOLO-1bh2bh3",
    "pFINGERED TREMOLO-1bg2bg3pCOMBINING AUGMENTATION DOTzFLAG-1be2be3be4be5pBEGIN BEAMpEND BEAM",
    "pBEGIN TIEpEND TIEpBEGIN SLURpEND SLURpBEGIN PHRASEpEND PHRASEpCOMBINING ACCENTzSTACCATO",
    "zTENUTOzSTACCATISSIMOzMARCATObg-STACCATOzACCENT-STACCATOzLOUREpARPEGGIATO UPbaDOWN",
    "pCOMBINING DOITzRIPzFLIPzSMEARzBENDzDOUBLE TONGUEzTRIPLE TONGUEpRINFORZANDOpSUBITOpZpPIANO",
    "pMEZZOpFORTEpCRESCENDOpDECRESCENDOpGRACE NOTE SLASHbaNO SLASHpTRqURNpINVERTED TURNpTURN SLASH",
    "uUPpORNAMENT STROKE-1bf2bf3bf4bf5bf6bf7bf8bf9bf10bg1pHAUPTSTIMMEpNEBENSTIMMEpEND OF STIMME",
    "pDEGREE SLASHpCOMBINING DOWN BOWzUP BOWzHARMONICzSNAP PIZZICATOpPEDAL MARKvUP MARK",
    "pHALF PEDAL MARKpGLISSANDO UPzDOWNpWITH FINGERNAILSpDAMPt ALLpMAXIMApLONGApBREVIS",
    "pSEMIBREVIS WHITEbaBLACKpMINIMAv BLACKpSEMIMINIMA WHITEbaBLACKpFUSA WHITEuBLACK",
    "pLONGA PERFECTA RESTvIMPERFECTA RESTpBREVIS RESTpSEMIBREVIS RESTpMINIMA RESTpSEMIMINIMA REST",
    "pTEMPUS PERFECTUM CUM PROLATIONE PERFECTAbvIMPERFECTAbvPERFECTA DIMINUTION-1",
    "wIMPERFECTUM CUM PROLATIONE PERFECTAbxIMPERFECTAch DIMINUTION-1ct2ct3pCROIXpGREGORIAN C CLEF",
    "zF CLEFpSQUARE BpVIRGApPODATUSpCLIVISpSCANDICUSpCLIMACUSpTORCULUSpPORRECTUSy FLEXUS",
    "pSCANDICUS FLEXUSpTORCULUS RESUPINUSpPES SUBPUNCTISpKIEVAN C CLEFwEND OF PIECEwFINAL NOTE",
    "wRECITATIVE MARKwWHOLE NOTEwHALF NOTEwQUARTER NOTE STEM DOWNboUPwEIGHTH NOTE STEM DOWNbnUP",
    "wFLAT SIGNpSORIpKORON+22aGREEK VOCAL NOTATION SYMBOL-1bc2bc3bc4bc5bc6bc7bc8bc9bc10bd1bd2bd3",
    "bd4bd5bd6bd7bd8bd9bc20bd1bd2bd3bd4bc50bd1bd2bd3bd4gINSTRUMENTAL NOTATION SYMBOL-1bj2bj4bj5bj7",
    "bj8bj11bk2bk3bk4bk7bk8bk9bj23bk4bk5bk6bk7bk9bj30bk2bk6bk7bk8bk9bj40bk2bk3bk5bk7bk8bk9bj50bk1",
    "bk2bk3bk4aCOMBINING GREEK MUSICAL TRISEMEzETRASEMEyPENTASEMEaGREEK MUSICAL LEIMMA",
    "+155aMAYAN NUMERAL ZEROoONEoTWOpHREEoFOURpIVEoSIXpEVENoEIGHToNINEoTENoELEVENoTWELVEpHIRTEEN",
    "oFOURTEENpIFTEENoSIXTEENpEVENTEENoEIGHTEENoNINETEEN+13bONOGRAM FOR EARTH",
    "aDIGRAM FOR HEAVENLY EARTHmUMAN EARTHlEARTHLY HEAVENuUMANq+1aTETRAGRAM FOR CENTREoFULL CIRCLE",
    "oMIREDoBARRIERoKEEPING SMALLoCONTRARIETYoASCENToOPPOSITIONoBRANCHING OUT",
    "oDEFECTIVENESS OR DISTORTIONpIVERGENCEoYOUTHFULNESSoINCREASEoPENETRATIONoREACHoCONTACT",
    "oHOLDING BACKoWAITINGoFOLLOWINGoADVANCEoRELEASEqSISTANCEoEASEoJOYoCONTENTIONoENDEAVOURoDUTIES",
    "oCHANGEoDECISIVENESSoBOLD RESOLUTIONoPACKINGoLEGIONoCLOSENESSoKINSHIPoGATHERINGoSTRENGTH",
    "oPURITYoFULLNESSoRESIDENCEoLAW OR MODELoRESPONSEoGOING TO MEEToENCOUNTERSoSTOVEoGREATNESS",
    "oENLARGEMENToPATTERNoRITUALoFLIGHToVASTNESS OR WASTINGoCONSTANCYoMEASUREoETERNITYoUNITY",
    "oDIMINISHMENToCLOSED MOUTHoGUARDEDNESSpATHERING INoMASSINGoACCUMULATIONoEMBELLISHMENToDOUBT",
    "oWATCHoSINKINGoINNERoDEPARTUREpARKENINGpIMMINGoEXHAUSTIONoSEVERANCEpTOPPAGEoHARDNESS",
    "oCOMPLETIONpLOSUREoFAILUREoAGGRAVATIONoCOMPLIANCEoON THE VERGEoDIFFICULTIESoLABOURING",
    "oFOSTERING+10aCOUNTING ROD UNIT DIGIT ONEyTWOzHREEyFOURzIVEySIXzEVENyEIGHTyNINE",
    "nTENS DIGIT ONEyTWOzHREEyFOURzIVEySIXzEVENyEIGHTyNINEaIDEOGRAPHIC TALLY MARK ONExTWOyHREE",
    "xFOURyIVEaTALLY MARK ONElFIVE+136aMATHEMATICAL BOLD CAPITAL AbaBbaCbaDbaEbaFbaGbaHbaIbaJbaK",
    "baLbaMbaNbaObaPbaQbaRbaSbaTbaUbaVbaWbaXbaYbaZsSMALL AyByCyDyEyFyGyHyIyJyKyLyMyNyOyPyQyRySyTyU",
    "yVyWyXyYyZnITALIC CAPITAL AbcBbcCbcDbcEbcFbcGbcHbcIbcJbcKbcLbcMbcNbcObcPbcQbcRbcSbcTbcUbcVbcW",
    "bcXbcYbcZuSMALL AbaBbaCbaDbaEbaFbaG+2baIbaJbaKbaLbaMbaNbaObaPbaQbaRbaSbaTbaUbaVbaWbaXbaYbaZ",
    "nBOLD ITALIC CAPITAL AbhBbhCbhDbhEbhFbhGbhHbhIbhJbhKbhLbhMbhNbhObhPbhQbhRbhSbhTbhUbhVbhWbhX",
    "bhYbhZzSMALL AbfBbfCbfDbfEbfFbfGbfHbfIbfJbfKbfLbfMbfNbfObfPbfQbfRbfSbfTbfUbfVbfWbfXbfYbfZ",
    "nSCRIPT CAPITAL A+2bcCbcD+3bcG+3bcJbcK+3bcNbcObcPbcQ+2bcSbcTbcUbcVbcWbcXbcYbcZuSMALL AbaBbaC",
    "baD+2baF+2baHbaIbaJbaKbaLbaMbaN+2baPbaQbaRbaSbaTbaUbaVbaWbaXbaYbaZnBOLD SCRIPT CAPITAL AbhB",
    "bhCbhDbhEbhFbhGbhHbhIbhJbhKbhLbhMbhNbhObhPbhQbhRbhSbhTbhUbhVbhWbhXbhYbhZzSMALL AbfBbfCbfDbfE",
    "bfFbfGbfHbfIbfJbfKbfLbfMbfNbfObfPbfQbfRbfSbfTbfUbfVbfWbfXbfYbfZnFRAKTUR CAPITAL AbdB+2bdDbdE",
    "bdFbdG+3bdJbdKbdLbdMbdNbdObdPbdQ+2bdSbdTbdUbdVbdWbdXbdY+2vSMALL AbbBbbCbbDbbEbbFbbGbbHbbIbbJ",
    "bbKbbLbbMbbNbbObbPbbQbbRbbSbbTbbUbbVbbWbbXbbYbbZnDOUBLE-STRUCK CAPITAL AbjB+2bjDbjEbjFbjG",
    "+2bjIbjJbjKbjLbjM+2bjO+4bjSbjTbjUbjVbjWbjXbjY+2bbSMALL AbhBbhCbhDbhEbhFbhGbhHbhIbhJbhKbhLbhM",
    "bhNbhObhPbhQbhRbhSbhTbhUbhVbhWbhXbhYbhZnBOLD FRAKTUR CAPITAL AbiBbiCbiDbiEbiFbiGbiHbiIbiJbiK",
    "biLbiMbiNbiObiPbiQbiRbiSbiTbiUbiVbiWbiXbiYbiZbaSMALL AbgBbgCbgDbgEbgFbgGbgHbgIbgJbgKbgLbgMbgN",
    "bgObgPbgQbgRbgSbgTbgUbgVbgWbgXbgYbgZnSANS-SERIF CAPITAL AbgBbgCbgDbgEbgFbgGbgHbgIbgJbgKbgLbgM",
    "bgNbgObgPbgQbgRbgSbgTbgUbgVbgWbgXbgYbgZySMALL AbeBbeCbeDbeEbeFbeGbeHbeIbeJbeKbeLbeMbeNbeObeP",
    "beQbeRbeSbeTbeUbeVbeWbeXbeYbeZyBOLD CAPITAL AblBblCblDblEblFblGblHblIblJblKblLblMblNblOblPblQ",
    "blRblSblTblUblVblWblXblYblZbdSMALL AbjBbjCbjDbjEbjFbjGbjHbjIbjJbjKbjLbjMbjNbjObjPbjQbjRbjSbjT",
    "bjUbjVbjWbjXbjYbjZyITALIC CAPITAL AbnBbnCbnDbnEbnFbnGbnHbnIbnJbnKbnLbnMbnNbnObnPbnQbnRbnSbnT",
    "bnUbnVbnWbnXbnYbnZbfSMALL AblBblCblDblEblFblGblHblIblJblKblLblMblNblOblPblQblRblSblTblUblVblW",
    "blXblYblZyBOLD ITALIC CAPITAL AbsBbsCbsDbsEbsFbsGbsHbsIbsJbsKbsLbsMbsNbsObsPbsQbsRbsSbsTbsU",
    "bsVbsWbsXbsYbsZbkSMALL AbqBbqCbqDbqEbqFbqGbqHbqIbqJbqKbqLbqMbqNbqObqPbqQbqRbqSbqTbqUbqVbqWbqX",
    "bqYbqZnMONOSPACE CAPITAL AbfBbfCbfDbfEbfFbfGbfHbfIbfJbfKbfLbfMbfNbfObfPbfQbfRbfSbfTbfUbfVbfW",
    "bfXbfYbfZxSMALL AbdBbdCbdDbdEbdFbdGbdHbdIbdJbdKbdLbdMbdNbdObdPbdQbdRbdSbdTbdUbdVbdWbdXbdYbdZ",
    "nITALIC SMALL DOTLESS IbiJ+3nBOLD CAPITAL ALPHAbaBETAbaGAMMAbaDELTAbaEPSILONbaZETAbaETA",
    "baTHETAbaIOTAbaKAPPAbaLAMDAbaMUbaNUbaXIbaOMICRONbaPIbaRHObaTHETA SYMBOLbaSIGMAbaTAUbaUPSILON",
    "baPHIbaCHIbaPSIbaOMEGAsNABLAsSMALL ALPHAyBETAyGAMMAyDELTAyEPSILONyZETAyETAyTHETAyIOTAyKAPPA",
    "yLAMDAyMUyNUyXIyOMICRONyPIyRHOyFINAL SIGMAySIGMAyTAUyUPSILONyPHIyCHIyPSIyOMEGA",
    "sPARTIAL DIFFERENTIALsEPSILON SYMBOLsTHETA SYMBOLsKAPPA SYMBOLsPHI SYMBOLsRHO SYMBOL",
    "sPI SYMBOLnITALIC CAPITAL ALPHAbcBETAbcGAMMAbcDELTAbcEPSILONbcZETAbcETAbcTHETAbcIOTAbcKAPPA",
    "bcLAMDAbcMUbcNUbcXIbcOMICRONbcPIbcRHObcTHETA SYMBOLbcSIGMAbcTAUbcUPSILONbcPHIbcCHIbcPSI",
    "bcOMEGAuNABLAuSMALL ALPHAbaBETAbaGAMMAbaDELTAbaEPSILONbaZETAbaETAbaTHETAbaIOTAbaKAPPAbaLAMDA",
    "baMUbaNUbaXIbaOMICRONbaPIbaRHObaFINAL SIGMAbaSIGMAbaTAUbaUPSILONbaPHIbaCHIbaPSIbaOMEGA",
    "uPARTIAL DIFFERENTIALuEPSILON SYMBOLuTHETA SYMBOLuKAPPA SYMBOLuPHI SYMBOLuRHO SYMBOL",
    "uPI SYMBOLnBOLD ITALIC CAPITAL ALPHAbhBETAbhGAMMAbhDELTAbhEPSILONbhZETAbhETAbhTHETAbhIOTA",
    "bhKAPPAbhLAMDAbhMUbhNUbhXIbhOMICRONbhPIbhRHObhTHETA SYMBOLbhSIGMAbhTAUbhUPSILONbhPHIbhCHI",
    "bhPSIbhOMEGAzNABLAzSMALL ALPHAbfBETAbfGAMMAbfDELTAbfEPSILONbfZETAbfETAbfTHETAbfIOTAbfKAPPA",
    "bfLAMDAbfMUbfNUbfXIbfOMICRONbfPIbfRHObfFINAL SIGMAbfSIGMAbfTAUbfUPSILONbfPHIbfCHIbfPSIbfOMEGA",
    "zPARTIAL DIFFERENTIALzEPSILON SYMBOLzTHETA SYMBOLzKAPPA SYMBOLzPHI SYMBOLzRHO SYMBOL",
    "zPI SYMBOLnSANS-SERIF BOLD CAPITAL ALPHAblBETAblGAMMAblDELTAblEPSILONblZETAblETAblTHETAblIOTA",
    "blKAPPAblLAMDAblMUblNUblXIblOMICRONblPIblRHOblTHETA SYMBOLblSIGMAblTAUblUPSILONblPHIblCHI",
    "blPSIblOMEGAbdNABLAbdSMALL ALPHAbjBETAbjGAMMAbjDELTAbjEPSILONbjZETAbjETAbjTHETAbjIOTAbjKAPPA",
    "bjLAMDAbjMUbjNUbjXIbjOMICRONbjPIbjRHObjFINAL SIGMAbjSIGMAbjTAUbjUPSILONbjPHIbjCHIbjPSIbjOMEGA",
    "bdPARTIAL DIFFERENTIALbdEPSILON SYMBOLbdTHETA SYMBOLbdKAPPA SYMBOLbdPHI SYMBOLbdRHO SYMBOL",
    "bdPI SYMBOLbdITALIC CAPITAL ALPHAbsBETAbsGAMMAbsDELTAbsEPSILONbsZETAbsETAbsTHETAbsIOTAbsKAPPA",
    "bsLAMDAbsMUbsNUbsXIbsOMICRONbsPIbsRHObsTHETA SYMBOLbsSIGMAbsTAUbsUPSILONbsPHIbsCHIbsPSI",
    "bsOMEGAbkNABLAbkSMALL ALPHAbqBETAbqGAMMAbqDELTAbqEPSILONbqZETAbqETAbqTHETAbqIOTAbqKAPPA",
    "bqLAMDAbqMUbqNUbqXIbqOMICRONbqPIbqRHObqFINAL SIGMAbqSIGMAbqTAUbqUPSILONbqPHIbqCHIbqPSIbqOMEGA",
    "bkPARTIAL DIFFERENTIALbkEPSILON SYMBOLbkTHETA SYMBOLbkKAPPA SYMBOLbkPHI SYMBOLbkRHO SYMBOL",
    "bkPI SYMBOLnBOLD CAPITAL DIGAMMAsSMALL DIGAMMA+3sDIGIT ZEROyONEyTWOzHREEyFOURzIVEySIXzEVEN",
    "yEIGHTyNINEnDOUBLE-STRUCK DIGIT ZERObhONEbhTWObiHREEbhFOURbiIVEbhSIXbiEVENbhEIGHTbhNINE",
    "nSANS-SERIF DIGIT ZERObeONEbeTWObfHREEbeFOURbfIVEbeSIXbfEVENbeEIGHTbeNINEyBOLD DIGIT ZERO",
    "bjONEbjTWObkHREEbjFOURbkIVEbjSIXbkEVENbjEIGHTbjNINEnMONOSPACE DIGIT ZERObdONEbdTWObeHREE",
    "bdFOURbeIVEbdSIXbeEVENbdEIGHTbdNINEaSIGNWRITING HAND-FIST INDEXrCIRCLE INDEXsUP INDEX",
    "rOVAL INDEXrHINGE INDEXrANGLE INDEXrFIST INDEX BENTrCIRCLE INDEX BENT",
    "rFIST THUMB UNDER INDEX BENTwINDEX RAISED KNUCKLEbcCUPPEDbcHINGEDbi LOWrCIRCLE INDEX HINGE",
    "rFIST INDEX MIDDLErCIRCLE INDEX MIDDLErFIST INDEX MIDDLE BENTbjRAISED KNUCKLESbjHINGED",
    "bcUP MIDDLE HINGEDbcHINGED MIDDLE UPbcMIDDLE CONJOINEDbs INDEX BENTbtMIDDLE BENTbtCUPPED",
    "btHINGEDbkROSSEDrCIRCLE INDEX MIDDLE CROSSEDrFIST MIDDLE BENT OVER INDEX",
    "wINDEX BENT OVER MIDDLEbcMIDDLE THUMBrCIRCLE INDEX MIDDLE THUMB",
    "rFIST INDEX MIDDLE STRAIGHT THUMB BENTbjBENT THUMB STRAIGHTbjTHUMB BENT",
    "bjHINGED SPREAD THUMB SIDEbcUP MIDDLE HINGED THUMB SIDEbzCONJOINED",
    "bcHINGED MIDDLE UP THUMB SIDEbcMIDDLE UP SPREAD THUMB FORWARDbjTHUMB CUPPEDbqIRCLEDbpHOOKED",
    "bqINGEDwTHUMB BETWEEN INDEX MIDDLE STRAIGHTwINDEX MIDDLE CONJOINED THUMB SIDEcd CONJOINED",
    "ceBENTwMIDDLE THUMB HOOKED INDEX UPwINDEX THUMB HOOKED MIDDLE UP",
    "bcMIDDLE CONJOINED HINGED THUMB SIDEbkROSSED THUMB SIDEbkONJOINED THUMB FORWARD",
    "btCUPPED THUMB FORWARDwMIDDLE THUMB CUPPED INDEX UPwINDEX THUMB CUPPED MIDDLE UP",
    "wMIDDLE THUMB CIRCLED INDEX UPbxHINGEDwINDEX THUMB ANGLED OUT MIDDLE UPbpIN MIDDLE UP",
    "biCIRCLED MIDDLE UPbcMIDDLE THUMB CONJOINED HINGEDbpANGLED OUTbv",
    "+1wMIDDLE THUMB ANGLED OUT INDEX UPcaCROSSEDbqINDEX UPwINDEX THUMB HOOKED MIDDLE HINGED",
    "sLAT FOUR FINGERSbi BENTbjHINGEDbjCONJOINEDbs SPLITrCLAW FOUR FINGERS CONJOINED",
    "rFIST FOUR FINGERS CONJOINED BENTrHINGE FOUR FINGERS CONJOINEDrFLAT FIVE FINGERS SPREAD",
    "wHEEL FIVE FINGERS SPREADwFIVE FINGERS SPREAD FOUR BENTwHEEL FIVE FINGERS SPREAD FOUR BENT",
    "wFIVE FINGERS SPREAD BENTwHEEL FIVE FINGERS SPREAD BENTwFIVE FINGERS SPREAD THUMB FORWARD",
    "rCUP FIVE FINGERS SPREADbo OPENrHINGE FIVE FINGERS SPREAD OPENrOVAL FIVE FINGERS SPREAD",
    "rFLAT FIVE FINGERS SPREAD HINGEDbw THUMB SIDEbxNO THUMBv+1v BETWEEN PALM FACINGSwHEEL",
    "wTHUMB SIDEwHEEL THUMB SIDEwTHUMB BENTbcFORWARDwSPLIT INDEX THUMB SIDEbcCENTREbi THUMB SIDE",
    "bt BENTbcLITTLErCLAWv THUMB SIDEwNO THUMBwTHUMB FORWARDrHOOK CURLICUEv+1rCUP OPENu",
    "+1u OPEN THUMB SIDEvTHUMB SIDEvOPEN NO THUMBvNO THUMBvOPEN THUMB FORWARDvTHUMB FORWARD",
    "tRLICUE OPENz+1sIRCLErOVALv THUMB SIDEwNO THUMBwTHUMB FORWARDrHINGE OPENbb THUMB FORWARDw",
    "+1w SMALLxOPEN THUMB SIDExTHUMB SIDExOPEN NO THUMBxNO THUMBxTHUMB SIDE TOUCHING INDEX",
    "bdBETWEEN MIDDLE RINGrANGLErFIST INDEX MIDDLE RINGrCIRCLE INDEX MIDDLE RING",
    "rHINGE INDEX MIDDLE RINGrANGLE INDEX MIDDLE RINGrHINGE LITTLErFIST INDEX MIDDLE RING BENT",
    "boCONJOINEDrHINGE INDEX MIDDLE RING CONJOINEDrFIST LITTLE DOWNbh RIPPLE STRAIGHTbpCURVED",
    "biOTHERS CIRCLEDbdUPwTHUMB UNDER LITTLE UPrCIRCLE LITTLE UPrOVAL LITTLE UPrANGLE LITTLE UP",
    "rFIST LITTLE RAISED KNUCKLEbdBENTbdTOUCHES THUMBbeHUMBrHINGE LITTLE THUMB",
    "rFIST LITTLE INDEX THUMBrHINGE LITTLE INDEX THUMBrANGLE LITTLE INDEX THUMB INDEX THUMB OUTcb",
    "+1rFIST LITTLE INDEXrCIRCLE LITTLE INDEXrHINGE LITTLE INDEXrANGLE LITTLE INDEX",
    "rFIST INDEX MIDDLE LITTLErCIRCLE INDEX MIDDLE LITTLErHINGE INDEX MIDDLE LITTLExRING",
    "rANGLE INDEX MIDDLE LITTLErFIST INDEX MIDDLE CROSS LITTLErCIRCLE INDEX MIDDLE CROSS LITTLE",
    "rFIST RING DOWNrHINGE RING DOWN INDEX THUMB HOOK MIDDLE",
    "rANGLE RING DOWN MIDDLE THUMB INDEX CROSSrFIST RING UPbbRAISED KNUCKLEbbLITTLE",
    "rCIRCLE RING LITTLErOVAL RING LITTLErANGLE RING LITTLErFIST RING MIDDLEbh CONJOINED",
    "biRAISED KNUCKLESbbINDEXbbTHUMBrHOOK RING THUMBrFIST INDEX RING LITTLE",
    "rCIRCLE INDEX RING LITTLEsURLICUE INDEX RING LITTLE ONrHOOK INDEX RING LITTLE OUTboINboUNDER",
    "rCUP INDEX RING LITTLErHINGE INDEX RING LITTLErANGLE INDEX RING LITTLE OUTbo",
    "+1rFIST MIDDLE DOWNrHINGE MIDDLErFIST MIDDLE UPrCIRCLE MIDDLE UPrFIST MIDDLE RAISED KNUCKLE",
    "bdUP THUMB SIDErHOOK MIDDLE THUMBrFIST MIDDLE THUMB LITTLEbdLITTLEbdRING LITTLE",
    "rCIRCLE MIDDLE RING LITTLEsURLICUE MIDDLE RING LITTLE ONtP MIDDLE RING LITTLE",
    "rHINGE MIDDLE RING LITTLErANGLE MIDDLE RING LITTLE OUTbqINbp+1rCIRCLE MIDDLE RING LITTLE BENT",
    "sLAW MIDDLE RING LITTLE CONJOINEDby SIDErHOOK MIDDLE RING LITTLE CONJOINED OUTbzINby",
    "+1sINGE INDEX HINGEDrFIST INDEX THUMB SIDErHINGE INDEX THUMB SIDE",
    "rFIST INDEX THUMB SIDE THUMB DIAGONALbtCONJOINEDbtBENTbnINDEX BENTbnBOTH BENTbnINDEX HINGE",
    "biFORWARD INDEX STRAIGHTbwBENTbiHOOKbiCURLICUEblVE THUMB INSIDE",
    "rCLAW INDEX THUMB CURVE THUMB INSIDErFIST INDEX THUMB CURVE THUMB UNDERbjIRCLE",
    "rCUP INDEX THUMBbg OPENrHINGE INDEX THUMB OPENbjLARGEbi+1bi SMALLrANGLE INDEX THUMB OUTbjINbi",
    "+1rFIST THUMBbb HEELbcSIDE DIAGONALbhCONJOINEDbhBENTbcFORWARDbcBETWEEN INDEX MIDDLE",
    "bkMIDDLE RINGbkRING LITTLEbcUNDER TWO FINGERSbcOVER TWO FINGERSbcUNDER THREE FINGERS",
    "biFOUR FINGERSbcOVER FOUR RAISED KNUCKLESv+1v HEELmTOUCH SINGLEsMULTIPLEsBETWEENmGRASP SINGLE",
    "sMULTIPLEsBETWEENmSTRIKE SINGLEtMULTIPLEtBETWEENmBRUSH SINGLEsMULTIPLEsBETWEENmRUB SINGLE",
    "qMULTIPLEqBETWEENmSURFACE SYMBOLSuBETWEENnQUEEZE LARGE SINGLEuSMALL SINGLEuLARGE MULTIPLE",
    "uSMALL MULTIPLEvEQUENTIALmFLICK LARGE SINGLEsSMALL SINGLEsLARGE MULTIPLEsSMALL MULTIPLE",
    "tEQUENTIALmSQUEEZE FLICK ALTERNATINGmMOVEMENT-HINGE UP DOWN LARGEbjSMALLbeSEQUENTIAL",
    "bbDOWN SEQUENTIALbbUP DOWN ALTERNATING LARGEbvSMALLbbSIDE TO SIDE SCISSORS",
    "vWALLPLANE FINGER CONTACTvFLOORPLANE FINGER CONTACTvWALLPLANE SINGLE STRAIGHT SMALLbvMEDIUM",
    "bvLARGEcaSTbmWRIST FLEXbfDOUBLE STRAIGHTbmWRIST FLEXbmALTERNATINGbx WRIST FLEXbfCROSS",
    "bfTRIPLE STRAIGHT MOVEMENTbmWRIST FLEXbmALTERNATINGbx WRIST FLEXbfBEND SMALLbkMEDIUMbkLARGE",
    "bfCORNER SMALLbmMEDIUMbmLARGEbmROTATIONbgHECK SMALLblMEDIUMblLARGEbfBOX SMALLbjMEDIUMbjLARGE",
    "bfZIGZAG SMALLbmMEDIUMbmLARGEbfPEAKS SMALLblMEDIUMblLARGE",
    "mTRAVEL-WALLPLANE ROTATION-WALLPLANE SINGLEbwDOUBLEbwALTERNATINGbmFLOORPLANE SINGLEbxDOUBLE",
    "bxALTERNATINGbdSHAKINGbdARM SPIRAL SINGLEboDOUBLEboTRIPLEmMOVEMENT-DIAGONAL AWAY SMALL",
    "bjMEDIUMbjLARGEboSTbeTOWARDS SMALLbmMEDIUMbmLARGEbrSTbeBETWEEN AWAY SMALLbrMEDIUMbrLARGEbwST",
    "bmTOWARDS SMALLbuMEDIUMbuLARGEbzSTvFLOORPLANE SINGLE STRAIGHT SMALLbwMEDIUMbwLARGEcbST",
    "bnWRIST FLEXbgDOUBLE STRAIGHTbnWRIST FLEXbnALTERNATINGby WRIST FLEXbgCROSS",
    "bgTRIPLE STRAIGHT MOVEMENTbnWRIST FLEXbnALTERNATING MOVEMENTbzWRIST FLEXbgBENDbgCORNER SMALL",
    "bnMEDIUMbnLARGEbhHECKbgBOX SMALLbkMEDIUMbkLARGEbgZIGZAG SMALLbnMEDIUMbnLARGEbgPEAKS SMALL",
    "bmMEDIUMbmLARGEmTRAVEL-FLOORPLANE ROTATION-FLOORPLANE SINGLEbyDOUBLEbyALTERNATING",
    "bnWALLPLANE SINGLEbxDOUBLEbxALTERNATINGbeSHAKINGmMOVEMENT-WALLPLANE CURVE QUARTER SMALL",
    "btMEDIUMbtLARGEbySTblHALF-CIRCLE SMALLbxMEDIUMbxLARGEccSTblTHREE-QUARTER CIRCLE SMALLcgMEDIUM",
    "bfHUMP SMALLbkMEDIUMbkLARGEbfLOOP SMALLbkMEDIUMbkLARGEbkSMALL DOUBLEbfWAVE CURVE DOUBLE SMALL",
    "bxMEDIUMbxLARGEbqTRIPLE SMALLbxMEDIUMbxLARGEbfCURVE THEN STRAIGHTbkD CROSS SMALLbsMEDIUM",
    "mROTATION-WALLPLANE SINGLEbfDOUBLEbfALTERNATEmMOVEMENT-WALLPLANE SHAKING",
    "bfCURVE HITTING FRONT WALLbfHUMP HITTING FRONT WALLbfLOOP HITTING FRONT WALL",
    "bfWAVE HITTING FRONT WALLmROTATION-WALLPLANE SINGLE HITTING FRONT WALL",
    "bfDOUBLE HITTING FRONT WALLbfALTERNATING HITTING FRONT WALL",
    "mMOVEMENT-WALLPLANE CURVE HITTING CHESTbfHUMP HITTING CHESTbfLOOP HITTING CHEST",
    "bfWAVE HITTING CHESTmROTATION-WALLPLANE SINGLE HITTING CHESTbfDOUBLE HITTING CHEST",
    "bfALTERNATING HITTING CHESTmMOVEMENT-WALLPLANE WAVE DIAGONAL PATH SMALLbyMEDIUMbyLARGE",
    "vFLOORPLANE CURVE HITTING CEILING SMALLccLARGEbgHUMP HITTING CEILING SMALL DOUBLE",
    "cbLARGE DOUBLEcbSMALL TRIPLEcbLARGE TRIPLEbgLOOP HITTING CEILING SMALL SINGLEcbLARGE SINGLE",
    "cbSMALL DOUBLEcbLARGE DOUBLEbgWAVE HITTING CEILING SMALLcbLARGE",
    "mROTATION-FLOORPLANE SINGLE HITTING CEILINGbgDOUBLE HITTING CEILING",
    "bgALTERNATING HITTING CEILINGmMOVEMENT-FLOORPLANE CURVE HITTING FLOOR SMALLcaLARGE",
    "bgHUMP HITTING FLOOR SMALL DOUBLEbzLARGE DOUBLEbzTRIPLE SMALL TRIPLEcgLARGE TRIPLE",
    "bgLOOP HITTING FLOOR SMALL SINGLEbzLARGE SINGLEbzSMALL DOUBLEbzLARGE DOUBLE",
    "bgWAVE HITTING FLOOR SMALLbzLARGEmROTATION-FLOORPLANE SINGLE HITTING FLOOR",
    "bgDOUBLE HITTING FLOORbgALTERNATING HITTING FLOORmMOVEMENT-FLOORPLANE CURVE SMALLbmMEDIUM",
    "bmLARGEbrSTbmCOMBINEDbgHUMP SMALLbgLOOP SMALLbgWAVE SNAKEbmMALLblLARGE",
    "mROTATION-FLOORPLANE SINGLEbgDOUBLEbgALTERNATINGmMOVEMENT-FLOORPLANE SHAKING PARALLEL",
    "vWALLPLANE ARM CIRCLE SMALL SINGLEbqMEDIUM SINGLEbqSMALL DOUBLEbqMEDIUM DOUBLE",
    "vFLOORPLANE ARM CIRCLE HITTING WALL SMALL SINGLEceMEDIUM SINGLEceLARGE SINGLEceSMALL DOUBLE",
    "ceMEDIUM DOUBLEceLARGE DOUBLEvWALLPLANE WRIST CIRCLE FRONT SINGLEbyDOUBLE",
    "vFLOORPLANE WRIST CIRCLE HITTING WALL SINGLEcgDOUBLEvWALLPLANE FINGER CIRCLES SINGLEbuDOUBLE",
    "vFLOORPLANE FINGER CIRCLES HITTING WALL SINGLEciDOUBLEmDYNAMIC ARROWHEAD SMALLbeLARGEuFAST",
    "uSLOWuTENSEuRELAXEDuSIMULTANEOUSbg ALTERNATINGuEVERY OTHER TIMEuGRADUALmHEADq RIM",
    "rMOVEMENT-WALLPLANE STRAIGHTbkTILTbaFLOORPLANE STRAIGHTbaWALLPLANE CURVEbaFLOORPLANE CURVE",
    "z CIRCLEmFACE DIRECTION POSITION NOSE FORWARD TILTINGbpUP OR DOWNbz TILTING",
    "mEYEBROWS STRAIGHT UPbeNEUTRALbeDOWNmDREAMY EYEBROWS NEUTRAL DOWNbcDOWN NEUTRALbcUP NEUTRAL",
    "bcNEUTRAL UPmFOREHEAD NEUTRALvCONTACTvWRINKLEDmEYES OPENrSQUEEZEDrCLOSEDp BLINK SINGLE",
    "wMULTIPLEpS HALF OPENrWIDE OPENrHALF CLOSEDrWIDENING MOVEMENTp WINKpLASHES UPwDOWNwFLUTTERING",
    "pGAZE-WALLPLANE STRAIGHTbm DOUBLEbnALTERNATINGuFLOORPLANE STRAIGHTbn DOUBLEboALTERNATING",
    "uWALLPLANE CURVEDuFLOORPLANE CURVEDuWALLPLANE CIRCLINGmCHEEKS PUFFEDtNEUTRALtSUCKED",
    "mTENSE CHEEKS HIGHzMIDDLEzLOWmEARSmNOSE NEUTRALrCONTACTrWRINKLESsIGGLESmAIR BLOWING OUT",
    "qSUCKING INqBLOW SMALL ROTATIONSqSUCK SMALL ROTATIONSmBREATH INHALEtEXHALE",
    "mMOUTH CLOSED NEUTRALzFORWARDzCONTACTsSMILEx WRINKLEDyOPENsFROWNx WRINKLEDyOPENsOPEN CIRCLE",
    "xFORWARDxWRINKLEDxOVALbb WRINKLEDbcYAWNxRECTANGLEbg WRINKLEDbhYAWNsKISSw FORWARDxWRINKLED",
    "sTENSEx FORWARDySUCKEDmLIPS PRESSED TOGETHERp LOWER OVER UPPERqUPPER OVER LOWERmMOUTH CORNERS",
    "sWRINKLES SINGLEbbDOUBLEmTONGUE STICKING OUT FARtLICKING LIPStTIP BETWEEN LIPS",
    "xTOUCHING INSIDE MOUTHtINSIDE MOUTH RELAXEDtMOVES AGAINST CHEEKtCENTRE STICKING OUT",
    "baINSIDE MOUTHnEETHr MOVEMENTsON TONGUEbb MOVEMENTvLIPSz MOVEMENTsBITE LIPS",
    "mMOVEMENT-WALLPLANE JAWvFLOORPLANE JAWmNECKmHAIRmEXCITEMENTmSHOULDER HIP SPINEzPOSITIONS",
    "mWALLPLANE SHOULDER HIP MOVEmFLOORPLANE SHOULDER HIP MOVEmSHOULDER TILTING FROM WAIST",
    "mTORSO-WALLPLANE STRAIGHT STRETCHbcCURVED BENDsFLOORPLANE TWISTING",
    "mUPPER BODY TILTING FROM HIP JOINTSmLIMB COMBINATIONrLENGTH-1y2y3y4y5y6y7mFINGER",
    "mLOCATION-WALLPLANE SPACEvFLOORPLANE SPACEu HEIGHTvWIDTHvDEPTHvHEAD NECKvTORSOvLIMBS DIGITS",
    "mCOMMAmFULL STOPmSEMICOLONmCOLONmPARENTHESIS+16mFILL MODIFIER-2ba3ba4ba5ba6",
    "+2mROTATION MODIFIER-2be3be4be5be6be7be8be9be10bf1bf2bf3bf4bf5bf6",
    "+1105aLATIN SMALL LETTER FENG DIGRAPH WITH TRILLtREVERSED SCRIPT G",
    "gLETTER SMALL CAPITAL TURNED GgSMALL LETTER REVERSED KgLETTER SMALL CAPITAL L WITH BELT",
    "gSMALL LETTER LEZH WITH RETROFLEX HOOKtTURNED Y WITH BELTtREVERSED ENG",
    "tTURNED R WITH LONG LEG AND RETROFLEX HOOKu WITH HOOK AND RETROFLEX HOOK",
    "gLETTER RETROFLEX CLICK WITH RETROFLEX HOOKgSMALL LETTER ESH WITH DOUBLE BARbm AND CURL",
    "tTURNED T WITH CURLgLETTER INVERTED GLOTTAL STOP WITH CURLnSTRETCHED C WITH CURL",
    "oMALL CAPITAL TURNED KgSMALL LETTER L WITH FISHHOOKtDEZH DIGRAPH WITH PALATAL HOOK",
    "tL WITH BELT AND PALATAL HOOKtENG WITH PALATAL HOOKtTURNED R WITH PALATAL HOOK",
    "tR WITH FISHHOOK AND PALATAL HOOKtTESH DIGRAPH WITH PALATAL HOOKtEZH WITH PALATAL HOOK",
    "tDEZH DIGRAPH WITH RETROFLEX HOOKtI WITH STROKE AND RETROFLEX HOOKtO WITH RETROFLEX HOOK",
    "tTESH DIGRAPH WITH RETROFLEX HOOKtC WITH RETROFLEX HOOKtS WITH CURL",
    "+226aCOMBINING GLAGOLITIC LETTER AZUbcBUKYbcVEDEbcGLAGOLIbcDOBRObcYESTUbcZHIVETE+2bdEMLJA",
    "bcIZHEbdNITIAL IZHEbd+1bcDJERVIbcKAKObcLJUDIJEbcMYSLITEbcNASHIbcONUbcPOKOJIbcRITSIbcSLOVO",
    "bcTVRIDObcUKUbcFRITUbcHERU+3bcSHTAbcTSIbcCHRIVIbcSHAbcYERUbfIbdATI+2bdUbcSMALL YUS+2bcYO",
    "bcIOTATED SMALL YUSbcBIG YUSbcIOTATED BIG YUSbcFITA+214aNYIAKENG PUACHUE HMONG LETTER MAbeTSA",
    "beNTAbeTAbeHAbeNAbeXAbeNKAbeCAbeLAbeSAbeZAbeNCAbfTSAbeKAbeDAbeNYAbfRAbeVAbeNTXAbeTXAbeFAbeRA",
    "beQAbeYAbeNQAbePAbeXYAbeNPAbeDLAbeNPLAbeHAHbeMLAbePLAbeGAbeRRAbeAbfAbeIbeUbeObfObeEbfEbeW",
    "+4xTONE-BbcMbcJbcVbcSbcGbcDxSIGN FOR PERSONbgTHINGbgLOCATIONbgANIMALbgINVERTEBRATEbcXW XW",
    "yYLLABLE LENGTHENER+3xDIGIT ZERObdONEbdTWObeHREEbdFOURbeIVEbdSIXbeEVENbdEIGHTbdNINE",
    "+5xLOGOGRAM NYAJxCIRCLED CA+321aTOTO LETTER PAmBAmTAmDAmKAmGAmMAmNAnGAmSAmCHAmYAmWAmJAmHAmRA",
    "mLAmImBREATHY ImIUmBREATHY IUmUmEmBREATHY EmEOmBREATHY EOmOmAEmBREATHY AEmAfSIGN RISING TONE",
    "+18aWANCHO LETTER AAp+1oBAoCAoDAoGAoYAoPHAoLAoNAoPAoTApHAoFAoSApHAoJAoZAoWAoVAoKAoOoAUoRAoMA",
    "oKHAoHAoEoIoNGAoUoLLHAoTSApRAoONGoAANGpNGoINGoONoENoAANoNYAoUENoYIHhTONE TUPpNImKOIpNI",
    "hDIGIT ZEROnONEnTWOoHREEnFOURoIVEnSIXoEVENnEIGHTnNINE+6hNGUN SIGN+1249aETHIOPIC SYLLABLE HHYA",
    "vUvIvAAvEEw+1vO+2sGURAGE HHWAsHHWIvEEw+2sGURAGE MWIbbEE+2zQWIbbEEbc+1zBWIbbEEzKWIbbEEbc+1zGWI",
    "bbEEbc+1zFWIbbEEzPWIbbEE+2aMENDE KIKAKUI SYLLABLE M001 KIba2 KAba3 KUz65 KEEz95 KEz76 KOO",
    "z48 KOy179 KUAy004 WIba5 WAba6 WUy126 WEEz18 WEba4 WOOy045 WOy194 WUIz43 WEIy061 WVIz49 WVA",
    "y139 WVEy007 MINba8 MANba9 MUNz59 MENz94 MONy154 MUANz89 MUENy010 BIba1 BAba2 BUy150 BEE",
    "y097 BEy103 BOOz38 BOy013 Iba4 Aba5 Uy163 EEz00 Ez65 OOz47 Oz37 EIba1 INba5 INz95 ANz78 EN",
    "y019 SIz20 SAba1 SUy162 SEEz16 SEz36 SOOy079 SOy196 SIAy025 LIba6 LAba7 LUz84 LEEz73 LE",
    "z54 LOOy153 LOz10 LONG LEy016 DIba7 DAba8 DUz89 DEEy180 DOOba1 DOy022 TIba3 TAba4 TUz91 TEE",
    "z55 TEy104 TOOy069 TOz28 JIba9 JAz30 JUy157 JEEz13 JEz60 JOOy063 JOy175 LONG JOy031 YIba2 YA",
    "ba3 YUy109 YEEy080 YEy141 YOOz21 YOy034 FIba5 FAba6 FUz78 FEEba5 FEy133 FOOy088 FOy197 FUA",
    "z01 FANy037 NINba8 NANba9 NUNy117 NENz69 NONz76 HIy041 HAy186 HUy040 HEEz96 HEz42 HOOy140 HO",
    "y083 HEEIy128 HOOUy053 HINy130 HANy087 HUNz52 HENy193 HONy046 HUANz90 NGGIz43 NGGAz82 NGGU",
    "y115 NGGEEz46 NGGEz56 NGGOOz20 NGGOz59 NGGAAz27 NGGUAy086 LONG NGGEy106 LONG NGGOO",
    "z83 LONG NGGOz55 GIz11 GAz68 GUz90 GEEz66 GUEIba7 GUANz84 NGENy057 NGONy177 NGUANy068 PI",
    "z99 PAz50 PUz81 PEEz51 PEy102 POOy066 POy145 MBIy062 MBAy122 MBUy047 MBEEy188 MBEEy072 MBE",
    "y172 MBOOba4 MBOz87 MBUUz61 LONG MBEz05 LONG MBOOz42 LONG MBOz32 KPIy092 KPAz74 KPUz44 KPEE",
    "y108 KPEz12 KPOOz58 KPOz24 GBIy056 GBAy148 GBUy093 GBEEy107 GBEy071 GBOOba0 GBOy171 RAz23 NDI",
    "ba9 NDAba5 NDUz91 NDEEz19 NDEy067 NDOOba4 NDOy152 NJAz92 NJUz49 NJEEz34 NJOOz82 VIba5 VA",
    "z51 VUz73 VEEy085 VEy144 VOOy077 VOy164 NYINy058 NYANy170 NYUNy098 NYENz60 NYON+3oDIGIT ONE",
    "uTWOvHREEuFOURvIVEuSIXvEVENuEIGHTuNINEoCOMBINING NUMBER TEENSbhNSbfHUNDREDSbfTHOUSANDS",
    "bgEN THOUSANDSbfHUNDRED THOUSANDSbfMILLIONS+42aADLAM CAPITAL LETTER ALIFvDAALIvLAAMvMIIMvBA",
    "vSINNYIIYHEvPEvBHEvRAvEvFAvIvOvDHAvYHEvWAWvNUNvKAFvYAvUvJIIMvCHIvHAvQAAFvGAvNYAvTUvNHAvVAvKHA",
    "vGBEvZALvKPOvSHAgSMALL LETTER ALIFtDAALItLAAMtMIIMtBAtSINNYIIYHEtPEtBHEtRAtEtFAtItOtDHAtYHE",
    "tWAWtNUNtKAFtYAtUtJIIMtCHItHAtQAAFtGAtNYAtTUtNHAtVAtKHAtGBEtZALtKPOtSHAgALIF LENGTHENER",
    "gVOWEL LENGTHENERgGEMINATION MARKgHAMZAgCONSONANT MODIFIERgGEMINATE CONSONANT MODIFIERgNUKTA",
    "hASALIZATION MARK+5gDIGIT ZEROmONEmTWOnHREEmFOURnIVEmSIXnEVENmEIGHTmNINE",
    "+5gINITIAL EXCLAMATION MARKoQUESTION MARK+786aINDIC SIYAQ NUMBER ONEtTWOuHREEtFOURuIVEtSIX",
    "uEVENtEIGHTtNINEtTENuWENTYuHIRTYtFORTYuIFTYtSIXTYuEVENTYtEIGHTYtNINETYtONE HUNDRED",
    "tTWO HUNDREDuHREE HUNDREDtFOUR HUNDREDuIVE HUNDREDtSIX HUNDREDuEVEN HUNDREDtEIGHT HUNDRED",
    "tNINE HUNDREDtONE THOUSANDtTWO THOUSANDuHREE THOUSANDtFOUR THOUSANDuIVE THOUSANDtSIX THOUSAND",
    "uEVEN THOUSANDtEIGHT THOUSANDtNINE THOUSANDtTEN THOUSANDuWENTY THOUSANDuHIRTY THOUSAND",
    "tFORTY THOUSANDuIFTY THOUSANDtSIXTY THOUSANDuEVENTY THOUSANDtEIGHTY THOUSANDtNINETY THOUSAND",
    "tLAKHxANmLAKH MARKmNUMBER KARORyANtPREFIXED ONEbcTWObdHREEbcFOURbdIVEbcSIXbdEVENbcEIGHTbcNINE",
    "mPLACEHOLDERmFRACTION ONE QUARTERzHALFvTHREE QUARTERSmRUPEE MARKmNUMBER ALTERNATE ONEbdTWO",
    "beEN THOUSANDmALTERNATE LAKH MARK+77aOTTOMAN SIYAQ NUMBER ONEvTWOwHREEvFOURwIVEvSIXwEVEN",
    "vEIGHTvNINEvTENwWENTYwHIRTYvFORTYwIFTYvSIXTYwEVENTYvEIGHTYvNINETYvONE HUNDREDvTWO HUNDRED",
    "wHREE HUNDREDvFOUR HUNDREDwIVE HUNDREDvSIX HUNDREDwEVEN HUNDREDvEIGHT HUNDREDvNINE HUNDRED",
    "vONE THOUSANDvTWO THOUSANDwHREE THOUSANDvFOUR THOUSANDwIVE THOUSANDvSIX THOUSAND",
    "wEVEN THOUSANDvEIGHT THOUSANDvNINE THOUSANDvTEN THOUSANDwWENTY THOUSANDwHIRTY THOUSAND",
    "vFORTY THOUSANDwIFTY THOUSANDvSIXTY THOUSANDwEVENTY THOUSANDvEIGHTY THOUSANDvNINETY THOUSAND",
    "oMARRATANoALTERNATE NUMBER TWObgHREEbfFOURbgIVEbfSIXbgEVENbfEIGHTbfNINEbfTENbfFOUR HUNDRED",
    "bfSIX HUNDREDbfTWO THOUSANDbgEN THOUSANDoFRACTION ONE HALFbbSIXTH",
    "+195aARABIC MATHEMATICAL ALEFuBEHuJEEMuDAL+2uWAWuZAINuHAHuTAHuYEHuKAFuLAMuMEEMuNOONuSEENuAIN",
    "uFEHuSADuQAFuREHuSHEENuTEHvHEHuKHAHuTHALuDADuZAHuGHAINuDOTLESS BEHbcNOONbcFEHbcQAF",
    "+2uINITIAL BEHbcJEEM+2bcHEH+3bdAH+2bcYEHbcKAFbcLAMbcMEEMbcNOONbcSEENbcAINbcFEHbcSADbcQAF",
    "+2bcSHEENbcTEHbdHEHbcKHAH+2bcDAD+2bcGHAIN+7uTAILED JEEM+5bbHAH+2bbYEH+2bbLAM+2bbNOONbbSEEN",
    "bbAIN+2bbSADbbQAF+2bbSHEEN+3bbKHAH+2bbDAD+2bbGHAIN+2bbDOTLESS NOON+2bjQAF+2uSTRETCHED BEH",
    "beJEEM+2beHEH+3bfAHbeTAHbeYEHbeKAF+2beMEEMbeNOONbeSEENbeAINbeFEHbeSADbeQAF+2beSHEENbeTEHbfHEH",
    "beKHAH+2beDADbeZAHbeGHAINbeDOTLESS BEH+2bmFEH+2uLOOPED ALEFbbBEHbbJEEMbbDALbbHEHbbWAWbbZAIN",
    "bbHAHbbTAHbbYEH+2bbLAMbbMEEMbbNOONbbSEENbbAINbbFEHbbSADbbQAFbbREHbbSHEENbbTEHbcHEHbbKHAH",
    "bbTHALbbDADbbZAHbbGHAIN+6uDOUBLE-STRUCK BEHbiJEEMbiDAL+2biWAWbiZAINbiHAHbiTAHbiYEH+2biLAM",
    "biMEEMbiNOONbiSEENbiAINbiFEHbiSADbiQAFbiREHbiSHEENbiTEHbjHEHbiKHAHbiTHALbiDADbiZAHbiGHAIN",
    "+53uOPERATOR MEEM WITH HAH WITH TATWEELbdHAH WITH DAL+271aMAHJONG TILE EAST WINDnSOUTH WIND",
    "nWEST WINDnNORTH WINDnRED DRAGONnGREEN DRAGONnWHITE DRAGONnONE OF CHARACTERS",
    "nTWO OF CHARACTERSoHREE OF CHARACTERSnFOUR OF CHARACTERSoIVE OF CHARACTERSnSIX OF CHARACTERS",
    "oEVEN OF CHARACTERSnEIGHT OF CHARACTERSnNINE OF CHARACTERSnONE OF BAMBOOSnTWO OF BAMBOOS",
    "oHREE OF BAMBOOSnFOUR OF BAMBOOSoIVE OF BAMBOOSnSIX OF BAMBOOSoEVEN OF BAMBOOS",
    "nEIGHT OF BAMBOOSnNINE OF BAMBOOSnONE OF CIRCLESnTWO OF CIRCLESoHREE OF CIRCLES",
    "nFOUR OF CIRCLESoIVE OF CIRCLESnSIX OF CIRCLESoEVEN OF CIRCLESnEIGHT OF CIRCLES",
    "nNINE OF CIRCLESnPLUMnORCHIDnBAMBOOnCHRYSANTHEMUMnSPRINGoUMMERnAUTUMNnWINTERnJOKERnBACK",
    "+5aDOMINO TILE HORIZONTAL BACKw-00-00bb1bb2bb3bb4bb5bb6y1-00bb1bb2bb3bb4bb5bb6y2-00bb1bb2bb3",
    "bb4bb5bb6y3-00bb1bb2bb3bb4bb5bb6y4-00bb1bb2bb3bb4bb5bb6y5-00bb1bb2bb3bb4bb5bb6y6-00bb1bb2bb3",
    "bb4bb5bb6mVERTICAL BACKu-00-00z1z2z3z4z5z6w1-00z1z2z3z4z5z6w2-00z1z2z3z4z5z6w3-00z1z2z3z4z5z6",
    "w4-00z1z2z3z4z5z6w5-00z1z2z3z4z5z6w6-00z1z2z3z4z5z6+13aPLAYING CARD BACKnACE OF SPADES",
    "nTWO OF SPADESoHREE OF SPADESnFOUR OF SPADESoIVE OF SPADESnSIX OF SPADESoEVEN OF SPADES",
    "nEIGHT OF SPADESnNINE OF SPADESnTEN OF SPADESnJACK OF SPADESnKNIGHT OF SPADESnQUEEN OF SPADES",
    "nKING OF SPADES+3nACE OF HEARTSnTWO OF HEARTSoHREE OF HEARTSnFOUR OF HEARTSoIVE OF HEARTS",
    "nSIX OF HEARTSoEVEN OF HEARTSnEIGHT OF HEARTSnNINE OF HEARTSnTEN OF HEARTSnJACK OF HEARTS",
    "nKNIGHT OF HEARTSnQUEEN OF HEARTSnKING OF HEARTSnRED JOKER+2nACE OF DIAMONDSnTWO OF DIAMONDS",
    "oHREE OF DIAMONDSnFOUR OF DIAMONDSoIVE OF DIAMONDSnSIX OF DIAMONDSoEVEN OF DIAMONDS",
    "nEIGHT OF DIAMONDSnNINE OF DIAMONDSnTEN OF DIAMONDSnJACK OF DIAMONDSnKNIGHT OF DIAMONDS",
    "nQUEEN OF DIAMONDSnKING OF DIAMONDSnBLACK JOKER+2nACE OF CLUBSnTWO OF CLUBSoHREE OF CLUBS",
    "nFOUR OF CLUBSoIVE OF CLUBSnSIX OF CLUBSoEVEN OF CLUBSnEIGHT OF CLUBSnNINE OF CLUBS",
    "nTEN OF CLUBSnJACK OF CLUBSnKNIGHT OF CLUBSnQUEEN OF CLUBSnKING OF CLUBSnWHITE JOKERnFOOL",
    "nTRUMP-1t2t3t4t5t6t7t8t9t10u1u2u3u4u5u6u7u8u9t20u1+11aDIGIT ZERO FULL STOPlCOMMAgONE COMMA",
    "gTWO COMMAhHREE COMMAgFOUR COMMAhIVE COMMAgSIX COMMAhEVEN COMMAgEIGHT COMMAgNINE COMMA",
    "cNGBAT CIRCLED SANS-SERIF DIGIT ZEROiNEGATIVE CIRCLED SANS-SERIF DIGIT ZERO",
    "aCIRCLED ZERO WITH SLASHiANTICLOCKWISE ARROWiDOLLAR SIGN WITH OVERLAID BACKSLASH",
    "aPARENTHESIZED LATIN CAPITAL LETTER AbjBbjCbjDbjEbjFbjGbjHbjIbjJbjKbjLbjMbjNbjObjPbjQbjRbjS",
    "bjTbjUbjVbjWbjXbjYbjZaTORTOISE SHELL BRACKETED LATIN CAPITAL LETTER S",
    "aCIRCLED ITALIC LATIN CAPITAL LETTER CbkRiCDiWZbOPYLEFT SYMBOLaSQUARED LATIN CAPITAL LETTER A",
    "bdBbdCbdDbdEbdFbdGbdHbdIbdJbdKbdLbdMbdNbdObdPbdQbdRbdSbdTbdUbdVbdWbdXbdYbdZiHViMViSDjSiPPViWC",
    "aNEGATIVE CIRCLED LATIN CAPITAL LETTER AbmBbmCbmDbmEbmFbmGbmHbmIbmJbmKbmLbmMbmNbmObmPbmQbmR",
    "bmSbmTbmUbmVbmWbmXbmYbmZaRAISED MC SIGNiD SIGNiR SIGNaCIRCLED CCj WITH OVERLAID BACKSLASH",
    "iHUMAN FIGUREaNEGATIVE SQUARED LATIN CAPITAL LETTER AbmBbmCbmDbmEbmFbmGbmHbmIbmJbmKbmLbmMbmN",
    "bmObmPbmQbmRbmSbmTbmUbmVbmWbmXbmYbmZaCROSSED NEGATIVE SQUARED LATIN CAPITAL LETTER P",
    "aNEGATIVE SQUARED ICrPArSArABrWCaSQUARE DJgD CLjOOLiFREEiIDiNEWjGiOKiSOS",
    "iUP WITH EXCLAMATION MARKiVSiTHREE DiSECOND SCREENiTWO KiFOUR KiEIGHT KiFIVE POINT ONE",
    "iSEVEN POINT ONEiTWENTY-TWO POINT TWOiSIXTY PiONE HUNDRED TWENTY PiLATIN SMALL LETTER DiHCjDR",
    "jI-RESiLOSSLESSiSHViUHDiVODaMASK WORK SYMBOL+57aREGIONAL INDICATOR SYMBOL LETTER AbhBbhCbhD",
    "bhEbhFbhGbhHbhIbhJbhKbhLbhMbhNbhObhPbhQbhRbhSbhTbhUbhVbhWbhXbhYbhZaSQUARE HIRAGANA HOKA",
    "gD KATAKANA KOKOrSA+14iCJK UNIFIED IDEOGRAPH-624Bbe5B57bf3CCiKATAKANA DE",
    "iCJK UNIFIED IDEOGRAPH-4E8Cbe591Abe89E3be5929be4EA4be6620be7121be6599be524DbfF8Cbf18Dbe65B0",
    "be521Dbe7D42bf51Fbe8CA9be58F0bf439be6F14bf295bf355be4E00bh9be904Abe5DE6be4E2Dbe53F3be6307",
    "be8D70be6253be7981bfA7Abe5408be6E80bf709bh8be7533be5272bf5B6be914D",
    "+5aTORTOISE SHELL BRACKETED CJK UNIFIED IDEOGRAPH-672Cbv4E09bx8Cbv5B89bv70B9bv6253bv76D7",
    "bv52DDbv6557+8aCIRCLED IDEOGRAPH ADVANTAGEtCCEPT+15aROUNDED SYMBOL FOR FUtLUtSHOUtXItSHUANGXI",
    "tCAI+155aCYCLONEaFOGGYaCLOSED UMBRELLAaNIGHT WITH STARSaSUNRISE OVER MOUNTAINSh",
    "+1aCITYSCAPE AT DUSKaSUNSET OVER BUILDINGSaRAINBOWaBRIDGE AT NIGHTaWATER WAVEaVOLCANO",
    "aMILKY WAYaEARTH GLOBE EUROPE-AFRICAmAMERICASnSIA-AUSTRALIAaGLOBE WITH MERIDIANS",
    "aNEW MOON SYMBOLaWAXING CRESCENT MOON SYMBOLaFIRST QUARTER MOON SYMBOL",
    "aWAXING GIBBOUS MOON SYMBOLaFULL MOON SYMBOLaWANING GIBBOUS MOON SYMBOL",
    "aLAST QUARTER MOON SYMBOLaWANING CRESCENT MOON SYMBOLaCRESCENT MOONaNEW MOON WITH FACE",
    "aFIRST QUARTER MOON WITH FACEaLAST QUARTER MOON WITH FACEaFULL MOON WITH FACEaSUN WITH FACE",
    "aGLOWING STARaSHOOTING STARaTHERMOMETERaBLACK DROPLETaWHITE SUNj WITH SMALL CLOUD",
    "kBEHIND CLOUDw WITH RAINaCLOUD WITH RAINlSNOWlLIGHTNINGlTORNADOaFOGaWIND BLOWING FACEaHOT DOG",
    "aTACOaBURRITOaCHESTNUTaSEEDLINGaEVERGREEN TREEaDECIDUOUS TREEaPALM TREEaCACTUSaHOT PEPPER",
    "aTULIPaCHERRY BLOSSOMaROSEaHIBISCUSaSUNFLOWERaBLOSSOMaEAR OF MAIZEhRICEaHERBaFOUR LEAF CLOVER",
    "aMAPLE LEAFaFALLEN LEAFaLEAF FLUTTERING IN WINDaMUSHROOMaTOMATOaAUBERGINEaGRAPESaMELON",
    "aWATERMELONaTANGERINEaLEMONaBANANAaPINEAPPLEaRED APPLEaGREEN APPLEaPEARdCHaCHERRIES",
    "aSTRAWBERRYaHAMBURGERaSLICE OF PIZZAaMEAT ON BONEaPOULTRY LEGaRICE CRACKERfBALLaCOOKED RICE",
    "bURRY AND RICEaSTEAMING BOWLbPAGHETTIaBREADaFRENCH FRIESaROASTED SWEET POTATOaDANGOaODEN",
    "aSUSHIaFRIED SHRIMPbISH CAKE WITH SWIRL DESIGNaSOFT ICE CREAMbHAVED ICEaICE CREAMaDOUGHNUT",
    "aCOOKIEbHOCOLATE BARbANDYaLOLLIPOPaCUSTARDaHONEY POTaSHORTCAKEaBENTO BOXaPOT OF FOODaCOOKING",
    "aFORK AND KNIFEaTEACUP WITHOUT HANDLEaSAKE BOTTLE AND CUPaWINE GLASSaCOCKTAIL GLASS",
    "aTROPICAL DRINKaBEER MUGaCLINKING BEER MUGSaBABY BOTTLEaFORK AND KNIFE WITH PLATE",
    "aBOTTLE WITH POPPING CORKaPOPCORNaRIBBONaWRAPPED PRESENTaBIRTHDAY CAKEaJACK-O-LANTERN",
    "aCHRISTMAS TREEaFATHER CHRISTMASbIREWORKSi SPARKLERaBALLOONaPARTY POPPERaCONFETTI BALL",
    "aTANABATA TREEaCROSSED FLAGSaPINE DECORATIONaJAPANESE DOLLSaCARP STREAMERaWIND CHIME",
    "aMOON VIEWING CEREMONYaSCHOOL SATCHELaGRADUATION CAPaHEART WITH TIP ON THE LEFT",
    "aBOUQUET OF FLOWERSaMILITARY MEDALaREMINDER RIBBONaMUSICAL KEYBOARD WITH JACKS",
    "aSTUDIO MICROPHONEaLEVEL SLIDERaCONTROL KNOBSaBEAMED ASCENDING MUSICAL NOTES",
    "hDESCENDING MUSICAL NOTESaFILM FRAMESaADMISSION TICKETSaCAROUSEL HORSEaFERRIS WHEEL",
    "aROLLER COASTERaFISHING POLE AND FISHaMICROPHONEbOVIE CAMERAaCINEMAaHEADPHONEaARTIST PALETTE",
    "aTOP HATaCIRCUS TENTaTICKETaCLAPPER BOARDaPERFORMING ARTSaVIDEO GAMEaDIRECT HITaSLOT MACHINE",
    "aBILLIARDSaGAME DIEaBOWLINGaFLOWER PLAYING CARDSaMUSICAL NOTEcLTIPLE MUSICAL NOTESaSAXOPHONE",
    "aGUITARaMUSICAL KEYBOARDaTRUMPETaVIOLINaMUSICAL SCOREaRUNNING SHIRT WITH SASH",
    "aTENNIS RACQUET AND BALLaSKI AND SKI BOOTaBASKETBALL AND HOOPaCHEQUERED FLAGaSNOWBOARDER",
    "aRUNNERaSURFERbPORTS MEDALaTROPHYaHORSE RACINGaAMERICAN FOOTBALLaRUGBY FOOTBALLaSWIMMER",
    "aWEIGHT LIFTERaGOLFERaRACING MOTORCYCLEhCARaCRICKET BAT AND BALLaVOLLEYBALL",
    "aFIELD HOCKEY STICK AND BALLaICE HOCKEY STICK AND PUCKaTABLE TENNIS PADDLE AND BALL",
    "aSNOW CAPPED MOUNTAINaCAMPINGaBEACH WITH UMBRELLAbUILDING CONSTRUCTIONaHOUSE BUILDINGS",
    "aCITYSCAPEaDERELICT HOUSE BUILDINGaCLASSICAL BUILDINGaDESERTg ISLANDaNATIONAL PARKaSTADIUM",
    "aHOUSE BUILDINGgWITH GARDENaOFFICE BUILDINGaJAPANESE POST OFFICEaEUROPEAN POST OFFICE",
    "aHOSPITALaBANKaAUTOMATED TELLER MACHINEaHOTELaLOVE HOTELaCONVENIENCE STOREaSCHOOL",
    "aDEPARTMENT STOREaFACTORYaIZAKAYA LANTERNaJAPANESE CASTLEaEUROPEAN CASTLEaWHITE PENNANT",
    "aBLACK PENNANTaWAVING WHITE FLAGhBLACK FLAGaROSETTEaBLACK ROSETTEaLABEL",
    "aBADMINTON RACQUET AND SHUTTLECOCKbOW AND ARROWaAMPHORAaEMOJI MODIFIER FITZPATRICK TYPE-1-2",
    "bg3bg4bg5bg6aRATaMOUSEaOXaWATER BUFFALOaCOWaTIGERaLEOPARDaRABBITaCATaDRAGONaCROCODILEaWHALE",
    "aSNAILdKEaHORSEaRAMaGOATaSHEEPaMONKEYaROOSTERaCHICKENaDOGaPIGaBOARaELEPHANTaOCTOPUS",
    "aSPIRAL SHELLaBUGaANTaHONEYBEEaLADY BEETLEaFISHaTROPICAL FISHaBLOWFISHaTURTLEaHATCHING CHICK",
    "aBABY CHICKaFRONT-FACING BABY CHICKaBIRDaPENGUINaKOALAaPOODLEaDROMEDARY CAMELaBACTRIAN CAMEL",
    "aDOLPHINaMOUSE FACEaCOW FACEaTIGER FACEaRABBIT FACEaCAT FACEaDRAGON FACEaSPOUTING WHALE",
    "aHORSE FACEaMONKEY FACEaDOG FACEaPIG FACEaFROG FACEaHAMSTER FACEaWOLF FACEaBEAR FACE",
    "aPANDA FACEbIG NOSEbAW PRINTSaCHIPMUNKaEYESd+1bARaNOSEaMOUTHaTONGUE",
    "aWHITE UP POINTING BACKHAND INDEXgDOWN POINTING BACKHAND INDEXgLEFT POINTING BACKHAND INDEX",
    "gRIGHT POINTING BACKHAND INDEXaFISTED HAND SIGNaWAVING HAND SIGNaOK HAND SIGNaTHUMBS UP SIGN",
    "hDOWN SIGNaCLAPPING HANDS SIGNaOPEN HANDS SIGNaCROWNaWOMANS HATaEYEGLASSESaNECKTIEaT-SHIRT",
    "aJEANSaDRESSaKIMONOaBIKINIaWOMANS CLOTHESaPURSEaHANDBAGaPOUCHaMANS SHOEaATHLETIC SHOE",
    "aHIGH-HEELED SHOEaWOMANS SANDALhBOOTSaFOOTPRINTSaBUST IN SILHOUETTEeS IN SILHOUETTEbOYaGIRL",
    "aMANaWOMANaFAMILYaMAN AND WOMAN HOLDING HANDSaTWO MEN HOLDING HANDSeWOMEN HOLDING HANDS",
    "aPOLICE OFFICERaWOMAN WITH BUNNY EARSaBRIDE WITH VEILaPERSON WITH BLOND HAIR",
    "aMAN WITH GUA PI MAOjTURBANaOLDER MANgWOMANaBABYaCONSTRUCTION WORKERaPRINCESSaJAPANESE OGRE",
    "jGOBLINaGHOSTaBABY ANGELaEXTRATERRESTRIAL ALIENaALIEN MONSTERaIMPaSKULL",
    "aINFORMATION DESK PERSONaGUARDSMANaDANCERaLIPSTICKaNAIL POLISHaFACE MASSAGEaHAIRCUT",
    "aBARBER POLEaSYRINGEaPILLaKISS MARKaLOVE LETTERaRINGaGEM STONEaKISSaBOUQUETaCOUPLE WITH HEART",
    "aWEDDINGaBEATING HEARTbROKEN HEARTaTWO HEARTSaSPARKLING HEARTaGROWING HEARTaHEART WITH ARROW",
    "aBLUE HEARTaGREEN HEARTaYELLOW HEARTaPURPLE HEARTaHEART WITH RIBBONaREVOLVING HEARTS",
    "aHEART DECORATIONaDIAMOND SHAPE WITH A DOT INSIDEaELECTRIC LIGHT BULBaANGER SYMBOLaBOMB",
    "aSLEEPING SYMBOLaCOLLISION SYMBOLaSPLASHING SWEAT SYMBOLaDROPLETbASH SYMBOLaPILE OF POO",
    "aFLEXED BICEPSaDIZZY SYMBOLaSPEECH BALLOONaTHOUGHT BALLOONaWHITE FLOWERaHUNDRED POINTS SYMBOL",
    "aMONEY BAGaCURRENCY EXCHANGEaHEAVY DOLLAR SIGNaCREDIT CARDaBANKNOTE WITH YEN SIGNoDOLLAR SIGN",
    "oEURO SIGNoPOUND SIGNaMONEY WITH WINGSaCHART WITH UPWARDS TREND AND YEN SIGNaSEAT",
    "aPERSONAL COMPUTERaBRIEFCASEaMINIDISCaFLOPPY DISKaOPTICAL DISCaDVDaFILE FOLDER",
    "aOPEN FILE FOLDERaPAGE WITH CURLfFACING UPaCALENDARaTEAR-OFF CALENDARaCARD INDEX",
    "bHART WITH UPWARDS TRENDlDOWNWARDS TRENDaBAR CHARTaCLIPBOARDaPUSHPINaROUND PUSHPINaPAPERCLIP",
    "aSTRAIGHT RULERaTRIANGULAR RULERaBOOKMARK TABSaLEDGERaNOTEBOOKi WITH DECORATIVE COVER",
    "aCLOSED BOOKaOPEN BOOKaGREEN BOOKaBLUE BOOKaORANGE BOOKaBOOKSaNAME BADGEaSCROLLaMEMO",
    "aTELEPHONE RECEIVERaPAGERaFAX MACHINEaSATELLITE ANTENNAaPUBLIC ADDRESS LOUDSPEAKER",
    "aCHEERING MEGAPHONEaOUTBOX TRAYaINBOX TRAYaPACKAGEaE-MAIL SYMBOLaINCOMING ENVELOPE",
    "aENVELOPE WITH DOWNWARDS ARROW ABOVEaCLOSED MAILBOX WITH LOWERED FLAGuRAISED FLAG",
    "aOPEN MAILBOX WITH RAISED FLAGsLOWERED FLAGaPOSTBOXeAL HORNaNEWSPAPERaMOBILE PHONE",
    "m WITH RIGHTWARDS ARROW AT LEFTaVIBRATION MODEaMOBILE PHONE OFFaNO MOBILE PHONES",
    "aANTENNA WITH BARSaCAMERAg WITH FLASHaVIDEO CAMERAaTELEVISIONaRADIOaVIDEOCASSETTE",
    "aFILM PROJECTORaPORTABLE STEREObRAYER BEADSaTWISTED RIGHTWARDS ARROWS",
    "aCLOCKWISE RIGHTWARDS AND LEFTWARDS OPEN CIRCLE ARROWScb WITH CIRCLED ONE OVERLAY",
    "kDOWNWARDS AND UPWARDS OPEN CIRCLE ARROWS",
    "aANTICLOCKWISE DOWNWARDS AND UPWARDS OPEN CIRCLE ARROWSaLOW BRIGHTNESS SYMBOL",
    "aHIGH BRIGHTNESS SYMBOLaSPEAKER WITH CANCELLATION STROKEh+1h WITH ONE SOUND WAVE",
    "nTHREE SOUND WAVESaBATTERYaELECTRIC PLUGaLEFT-POINTING MAGNIFYING GLASS",
    "aRIGHT-POINTING MAGNIFYING GLASSaLOCK WITH INK PENaCLOSED LOCK WITH KEYaKEYaLOCKaOPEN LOCK",
    "aBELLe WITH CANCELLATION STROKEbOOKMARKaLINK SYMBOLaRADIO BUTTON",
    "aBACK WITH LEFTWARDS ARROW ABOVEaEND WITH LEFTWARDS ARROW ABOVE",
    "aON WITH EXCLAMATION MARK WITH LEFT RIGHT ARROW ABOVEaSOON WITH RIGHTWARDS ARROW ABOVE",
    "aTOP WITH UPWARDS ARROW ABOVEaNO ONE UNDER EIGHTEEN SYMBOLaKEYCAP TEN",
    "aINPUT SYMBOL FOR LATIN CAPITAL LETTERSxSMALL LETTERSrNUMBERSrSYMBOLSrLATIN LETTERSaFIRE",
    "aELECTRIC TORCHaWRENCHaHAMMERaNUT AND BOLTaHOCHOaPISTOLaMICROSCOPEaTELESCOPEaCRYSTAL BALL",
    "aSIX POINTED STAR WITH MIDDLE DOTaJAPANESE SYMBOL FOR BEGINNERaTRIDENT EMBLEM",
    "aBLACK SQUARE BUTTONaWHITE SQUARE BUTTONaLARGE RED CIRCLEgBLUE CIRCLEgORANGE DIAMOND",
    "gBLUE DIAMONDaSMALL ORANGE DIAMONDgBLUE DIAMONDaUP-POINTING RED TRIANGLE",
    "aDOWN-POINTING RED TRIANGLEaUP-POINTING SMALL RED TRIANGLEaDOWN-POINTING SMALL RED TRIANGLE",
    "aLOWER RIGHT SHADOWED WHITE CIRCLEaUPPER RIGHT SHADOWED WHITE CIRCLEaCIRCLED CROSS POMMEE",
    "bROSS POMMEE WITH HALF-CIRCLE BELOWm+1aNOTCHED LEFT SEMICIRCLE WITH THREE DOTS",
    "iRIGHT SEMICIRCLE WITH THREE DOTSaSYMBOL FOR MARKS CHAPTERaWHITE LATIN CROSS",
    "aHEAVY LATIN CROSSaCELTIC CROSSaOM SYMBOLaDOVE OF PEACEaKAABAaMOSQUEaSYNAGOGUE",
    "aMENORAH WITH NINE BRANCHESaBOWL OF HYGIEIAaCLOCK FACE ONE OCLOCKlTWO OCLOCKmHREE OCLOCK",
    "lFOUR OCLOCKmIVE OCLOCKlSIX OCLOCKmEVEN OCLOCKlEIGHT OCLOCKlNINE OCLOCKlTEN OCLOCK",
    "lELEVEN OCLOCKlTWELVE OCLOCKlONE-THIRTYlTWO-THIRTYmHREE-THIRTYlFOUR-THIRTYmIVE-THIRTY",
    "lSIX-THIRTYmEVEN-THIRTYlEIGHT-THIRTYlNINE-THIRTYlTEN-THIRTYlELEVEN-THIRTYlTWELVE-THIRTY",
    "aRIGHT SPEAKERn WITH ONE SOUND WAVEtTHREE SOUND WAVESaBULLHORNi WITH SOUND WAVESaRINGING BELL",
    "aBOOKaCANDLEaMANTELPIECE CLOCKaBLACK SKULL AND CROSSBONESaNO PIRACYaHOLE",
    "aMAN IN BUSINESS SUIT LEVITATINGaSLEUTH OR SPYaDARK SUNGLASSESaSPIDERg WEBaJOYSTICK",
    "aMAN DANCINGaLEFT HAND TELEPHONE RECEIVERaTELEPHONE RECEIVER WITH PAGE",
    "aRIGHT HAND TELEPHONE RECEIVERaWHITE TOUCHTONE TELEPHONEaBLACK TOUCHTONE TELEPHONE",
    "aTELEPHONE ON TOP OF MODEMaCLAMSHELL MOBILE PHONEaBACK OF ENVELOPEaSTAMPED ENVELOPE",
    "aENVELOPE WITH LIGHTNINGaFLYING ENVELOPEaPEN OVER STAMPED ENVELOPEaLINKED PAPERCLIPS",
    "aBLACK PUSHPINaLOWER LEFT PENCILlBALLPOINT PENlFOUNTAIN PENlPAINTBRUSHlCRAYON",
    "bEFT WRITING HANDaTURNED OK HAND SIGNaRAISED HAND WITH FINGERS SPLAYED",
    "bEVERSED RAISED HAND WITH FINGERS SPLAYEDjTHUMBS UP SIGNqDOWN SIGNjVICTORY HAND",
    "jHAND WITH MIDDLE FINGER EXTENDEDbAISED HAND WITH PART BETWEEN MIDDLE AND RING FINGERS",
    "aWHITE DOWN POINTING LEFT HAND INDEXaSIDEWAYS WHITE LEFT POINTING INDEXpRIGHT POINTING INDEX",
    "jBLACK LEFT POINTING INDEXpRIGHT POINTING INDEXaBLACK LEFT POINTING BACKHAND INDEX",
    "gRIGHT POINTING BACKHAND INDEXaSIDEWAYS WHITE UP POINTING INDEXpDOWN POINTING INDEX",
    "jBLACK UP POINTING INDEXpDOWN POINTING INDEXaBLACK UP POINTING BACKHAND INDEX",
    "gDOWN POINTING BACKHAND INDEXgHEARTaDESKTOP COMPUTERaKEYBOARD AND MOUSE",
    "aTHREE NETWORKED COMPUTERSaPRINTERbOCKET CALCULATORaBLACK HARD SHELL FLOPPY DISK",
    "aWHITE HARD SHELL FLOPPY DISKaSOFT SHELL FLOPPY DISKaTAPE CARTRIDGEaWIRED KEYBOARD",
    "aONE BUTTON MOUSEaTWO BUTTON MOUSEbHREE BUTTON MOUSEbRACKBALLaOLD PERSONAL COMPUTERaHARD DISK",
    "aSCREENaPRINTER ICONaFAX ICONaOPTICAL DISC ICONaDOCUMENT WITH TEXTs AND PICTUREoPICTURE",
    "aFRAME WITH PICTURElTILESlAN XaBLACK FOLDERaFOLDERaOPEN FOLDERaCARD INDEX DIVIDERSfFILE BOX",
    "aFILE CABINETaEMPTY NOTEk PAGEnDaNOTEe PAGEhDaEMPTY DOCUMENTgPAGEkSaDOCUMENTaPAGEeS",
    "aWASTEBASKETaSPIRAL NOTE PADhCALENDAR PADaDESKTOP WINDOWaMINIMIZEbAXIMIZEaOVERLAP",
    "aCLOCKWISE RIGHT AND LEFT SEMICIRCLE ARROWSbANCELLATION XaINCREASE FONT SIZE SYMBOL",
    "aDECREASE FONT SIZE SYMBOLaCOMPRESSIONaOLD KEYaROLLED-UP NEWSPAPERaPAGE WITH CIRCLED TEXT",
    "aSTOCK CHARTaDAGGER KNIFEaLIPSaSPEAKING HEAD IN SILHOUETTEaTHREE RAYS ABOVElBELOWlLEFTlRIGHT",
    "aLEFT SPEECH BUBBLEaRIGHT SPEECH BUBBLEaTWO SPEECH BUBBLESbHREE SPEECH BUBBLES",
    "aLEFT THOUGHT BUBBLEaRIGHT THOUGHT BUBBLEaLEFT ANGER BUBBLEaRIGHT ANGER BUBBLEaMOOD BUBBLE",
    "aLIGHTNING MOOD BUBBLEo+1aBALLOT BOX WITH BALLOThSCRIPT XhBOX WITH SCRIPT XjLD SCRIPT X",
    "jX WITH BOLD SCRIPT XaLIGHT CHECK MARKaBALLOT BOX WITH BOLD CHECKaWORLD MAPaMOUNT FUJI",
    "aTOKYO TOWERaSTATUE OF LIBERTYbILHOUETTE OF JAPANaMOYAIaGRINNING FACEn WITH SMILING EYES",
    "aFACE WITH TEARS OF JOYaSMILING FACE WITH OPEN MOUTHbc AND SMILING EYESbhCOLD SWEAT",
    "bhTIGHTLY-CLOSED EYESsHALOtORNSaWINKING FACEaSMILING FACE WITH SMILING EYES",
    "aFACE SAVOURING DELICIOUS FOODaRELIEVED FACEaSMILING FACE WITH HEART-SHAPED EYESsSUNGLASSES",
    "dRKING FACEaNEUTRAL FACEaEXPRESSIONLESS FACEaUNAMUSED FACEaFACE WITH COLD SWEATaPENSIVE FACE",
    "aCONFUSED FACEeOUNDED FACEaKISSING FACEaFACE THROWING A KISSaKISSING FACE WITH SMILING EYES",
    "sCLOSED EYESaFACE WITH STUCK-OUT TONGUEba AND WINKING EYEbfTIGHTLY-CLOSED EYES",
    "aDISAPPOINTED FACEaWORRIED FACEaANGRY FACEaPOUTING FACEaCRYING FACEaPERSEVERING FACE",
    "aFACE WITH LOOK OF TRIUMPHaDISAPPOINTED BUT RELIEVED FACEaFROWNING FACE WITH OPEN MOUTH",
    "aANGUISHED FACEaFEARFUL FACEaWEARY FACEaSLEEPY FACEaTIRED FACEaGRIMACING FACE",
    "aLOUDLY CRYING FACEaFACE WITH OPEN MOUTHaHUSHED FACEaFACE WITH OPEN MOUTH AND COLD SWEAT",
    "fSCREAMING IN FEARaASTONISHED FACEaFLUSHED FACEaSLEEPING FACEaDIZZY FACEaFACE WITHOUT MOUTH",
    "j MEDICAL MASKaGRINNING CAT FACE WITH SMILING EYESaCAT FACE WITH TEARS OF JOY",
    "aSMILING CAT FACE WITH OPEN MOUTHwHEART-SHAPED EYESaCAT FACE WITH WRY SMILE",
    "aKISSING CAT FACE WITH CLOSED EYESaPOUTING CAT FACEaCRYING CAT FACEaWEARY CAT FACE",
    "aSLIGHTLY FROWNING FACEjSMILING FACEaUPSIDE-DOWN FACEaFACE WITH ROLLING EYESkNO GOOD GESTURE",
    "kOK GESTUREaPERSON BOWING DEEPLYaSEE-NO-EVIL MONKEYaHEAR-NO-EVIL MONKEYaSPEAK-NO-EVIL MONKEY",
    "aHAPPY PERSON RAISING ONE HANDaPERSON RAISING BOTH HANDS IN CELEBRATIONhFROWNING",
    "hWITH POUTING FACEmFOLDED HANDSaNORTH WEST POINTING LEAFaSOUTH WEST POINTING LEAF",
    "aNORTH EAST POINTING LEAFaSOUTH EAST POINTING LEAFaTURNED NORTH WEST POINTING LEAF",
    "hSOUTH WEST POINTING LEAFhNORTH EAST POINTING LEAFhSOUTH EAST POINTING LEAF",
    "aNORTH WEST POINTING VINE LEAFaSOUTH WEST POINTING VINE LEAFaNORTH EAST POINTING VINE LEAF",
    "aSOUTH EAST POINTING VINE LEAFaHEAVY NORTH WEST POINTING VINE LEAF",
    "gSOUTH WEST POINTING VINE LEAFgNORTH EAST POINTING VINE LEAFgSOUTH EAST POINTING VINE LEAF",
    "aNORTH WEST POINTING BUDaSOUTH WEST POINTING BUDaNORTH EAST POINTING BUD",
    "aSOUTH EAST POINTING BUDaHEAVY NORTH WEST POINTING BUDgSOUTH WEST POINTING BUD",
    "gNORTH EAST POINTING BUDgSOUTH EAST POINTING BUDbOLLOW QUILT SQUARE ORNAMENT",
    "bc IN BLACK SQUAREaSOLID QUILT SQUARE ORNAMENTbb IN BLACK SQUAREaLEFTWARDS ROCKET",
    "aUPWARDS ROCKETaRIGHTWARDS ROCKETaDOWNWARDS ROCKETaSCRIPT LIGATURE ET ORNAMENT",
    "aHEAVY SCRIPT LIGATURE ET ORNAMENTaLIGATURE OPEN ET ORNAMENTaHEAVY LIGATURE OPEN ET ORNAMENT",
    "gAMPERSAND ORNAMENTaSWASH AMPERSAND ORNAMENT",
    "bANS-SERIF HEAVY DOUBLE TURNED COMMA QUOTATION MARK ORNAMENTyCOMMA QUOTATION MARK ORNAMENT",
    "rLOW DOUBLE COMMA QUOTATION MARK ORNAMENTaHEAVY INTERROBANG ORNAMENT",
    "aSANS-SERIF INTERROBANG ORNAMENTaHEAVY SANS-SERIF INTERROBANG ORNAMENTaVERY HEAVY SOLIDUS",
    "lREVERSE SOLIDUSaCHECKER BOARDaREVERSE CHECKER BOARDbOCKETaHELICOPTERaSTEAM LOCOMOTIVE",
    "aRAILWAY CARaHIGH-SPEED TRAINq WITH BULLET NOSEaTRAINaMETROaLIGHT RAILaSTATIONaTRAMe CARaBUS",
    "aONCOMING BUSaTROLLEYBUSaBUS STOPaMINIBUSaAMBULANCEaFIRE ENGINEaPOLICE CAR",
    "aONCOMING POLICE CARaTAXIaONCOMING TAXIaAUTOMOBILEaONCOMING AUTOMOBILEaRECREATIONAL VEHICLE",
    "aDELIVERY TRUCKaARTICULATED LORRYaTRACTORaMONORAILcUNTAIN RAILWAYaSUSPENSION RAILWAY",
    "aMOUNTAIN CABLEWAYaAERIAL TRAMWAYaSHIPaROWBOATaSPEEDBOATaHORIZONTAL TRAFFIC LIGHT",
    "aVERTICAL TRAFFIC LIGHTaCONSTRUCTION SIGNaPOLICE CARS REVOLVING LIGHTaTRIANGULAR FLAG ON POST",
    "aDOORaNO ENTRY SIGNaSMOKING SYMBOLaNO SMOKING SYMBOLaPUT LITTER IN ITS PLACE SYMBOL",
    "aDO NOT LITTER SYMBOLaPOTABLE WATER SYMBOLaNON-POTABLE WATER SYMBOLaBICYCLEaNO BICYCLES",
    "aBICYCLISTaMOUNTAIN BICYCLISTaPEDESTRIANaNO PEDESTRIANSaCHILDREN CROSSINGaMENS SYMBOL",
    "aWOMENS SYMBOLaRESTROOMaBABY SYMBOLaTOILETaWATER CLOSETaSHOWERaBATHeTUBaPASSPORT CONTROL",
    "aCUSTOMSaBAGGAGE CLAIMaLEFT LUGGAGEaTRIANGLE WITH ROUNDED CORNERSaPROHIBITED SIGN",
    "aCIRCLED INFORMATION SOURCEaBOYS SYMBOLaGIRLS SYMBOLaCOUCH AND LAMPaSLEEPING ACCOMMODATION",
    "bHOPPING BAGSaBELLHOP BELLcDaPLACE OF WORSHIPaOCTAGONAL SIGNaSHOPPING TROLLEYbTUPAaPAGODA",
    "aHINDU TEMPLEbUTaELEVATOR+6aPLAYGROUND SLIDEaWHEELaRING BUOYaHAMMER AND WRENCHaSHIELD",
    "aOIL DRUMaMOTORWAYaRAILWAY TRACKaMOTOR BOATaUP-POINTING MILITARY AIRPLANEmAIRPLANE",
    "mSMALL AIRPLANEaSMALL AIRPLANEaNORTHEAST-POINTING AIRPLANEaAIRPLANE DEPARTUREjARRIVING",
    "+4aSATELLITEaONCOMING FIRE ENGINEaDIESEL LOCOMOTIVEaPASSENGER SHIPaSCOOTERaMOTOR SCOOTER",
    "aCANOEaSLEDaFLYING SAUCERaSKATEBOARDaAUTO RICKSHAWaPICKUP TRUCKaROLLER SKATE",
    "+4aALCHEMICAL SYMBOL FOR QUINTESSENCEwAIRwFIREwEARTHwWATERwAQUAFORTISba REGIAbg-2bbVITAEbg-2",
    "wVINEGARbd-2be3wSULFURwPHILOSOPHERS SULFURwBLACK SULFURwMERCURY SUBLIMATEbn-2bo3wCINNABAR",
    "wSALTwNITREwVITRIOLbd-2wROCK SALTbf-2wGOLDwSILVERwIRON OREbe-2wCROCUS OF IRONwREGULUS OF IRON",
    "wCOPPER OREwIRON-COPPER OREwSUBLIMATE OF COPPERwCROCUS OF COPPERbm-2xOPPER ANTIMONIATE",
    "wSALT OF COPPER ANTIMONIATExUBLIMATE OF SALT OF COPPERwVERDIGRISwTIN OREwLEAD ORE",
    "wANTIMONY OREwSUBLIMATE OF ANTIMONYxALT OF ANTIMONYxUBLIMATE OF SALT OF ANTIMONY",
    "wVINEGAR OF ANTIMONYwREGULUS OF ANTIMONYbp-2bd+1bd-2be3be4wALKALIbc-2wMARCASITEwSAL-AMMONIAC",
    "wARSENICwREALGARbd-2wAURIPIGMENTwBISMUTH OREwTARTARbc-2wQUICK LIMEwBORAXbb-2bc3wALUMwOIL",
    "wSPIRITwTINCTUREwGUMwWAXwPOWDERwCALXwTUTTYwCAPUT MORTUUMwSCEPTER OF JOVEwCADUCEUSwTRIDENT",
    "wSTARRED TRIDENTwLODESTONEwSOAPwURINEwHORSE DUNGwASHESwPOT ASHESwBRICKwPOWDERED BRICKwAMALGAM",
    "wSTRATUM SUPER STRATUMbr-2xUBLIMATIONwPRECIPITATEwDISTILLzSOLVEbe-2wPURIFYyTREFACTION",
    "wCRUCIBLEbe-2bf3bf4bf5wALEMBICwBATH OF MARYbeVAPOURSwRETORTwHOURwNIGHTwDAY-NIGHTwMONTH",
    "wHALF DRAMbbOUNCE+13aBLACK LEFT-POINTING ISOSCELES RIGHT TRIANGLE",
    "gUP-POINTING ISOSCELES RIGHT TRIANGLEgRIGHT-POINTING ISOSCELES RIGHT TRIANGLE",
    "gDOWN-POINTING ISOSCELES RIGHT TRIANGLEgSLIGHTLY SMALL CIRCLEaMEDIUM BOLD WHITE CIRCLE",
    "aBOLD WHITE CIRCLEaHEAVY WHITE CIRCLEaVERY HEAVY WHITE CIRCLEaEXTREMELY HEAVY WHITE CIRCLE",
    "aWHITE CIRCLE CONTAINING BLACK SMALL CIRCLEaROUND TARGETaBLACK TINY SQUARE",
    "gSLIGHTLY SMALL SQUAREaLIGHT WHITE SQUAREaMEDIUM WHITE SQUAREaBOLD WHITE SQUARE",
    "aHEAVY WHITE SQUAREaVERY HEAVY WHITE SQUAREaEXTREMELY HEAVY WHITE SQUARE",
    "aWHITE SQUARE CONTAINING BLACK VERY SMALL SQUAREbeMEDIUM SQUAREaSQUARE TARGET",
    "aBLACK TINY DIAMONDgVERY SMALL DIAMONDgMEDIUM SMALL DIAMOND",
    "aWHITE DIAMOND CONTAINING BLACK VERY SMALL DIAMONDbfMEDIUM DIAMONDaDIAMOND TARGET",
    "aBLACK TINY LOZENGEgVERY SMALL LOZENGEgMEDIUM SMALL LOZENGE",
    "aWHITE LOZENGE CONTAINING BLACK SMALL LOZENGEaTHIN GREEK CROSSaLIGHT GREEK CROSS",
    "aMEDIUM GREEK CROSSaBOLD GREEK CROSSaVERY BOLD GREEK CROSSfHEAVY GREEK CROSS",
    "aEXTREMELY HEAVY GREEK CROSSaTHIN SALTIREaLIGHT SALTIREaMEDIUM SALTIREaBOLD SALTIRE",
    "aHEAVY SALTIREaVERY HEAVY SALTIREaEXTREMELY HEAVY SALTIREaLIGHT FIVE SPOKED ASTERISK",
    "aMEDIUM FIVE SPOKED ASTERISKaBOLD FIVE SPOKED ASTERISKaHEAVY FIVE SPOKED ASTERISK",
    "aVERY HEAVY FIVE SPOKED ASTERISKaEXTREMELY HEAVY FIVE SPOKED ASTERISK",
    "aLIGHT SIX SPOKED ASTERISKaMEDIUM SIX SPOKED ASTERISKaBOLD SIX SPOKED ASTERISK",
    "aHEAVY SIX SPOKED ASTERISKaVERY HEAVY SIX SPOKED ASTERISKaEXTREMELY HEAVY SIX SPOKED ASTERISK",
    "aLIGHT EIGHT SPOKED ASTERISKaMEDIUM EIGHT SPOKED ASTERISKaBOLD EIGHT SPOKED ASTERISK",
    "aHEAVY EIGHT SPOKED ASTERISKaVERY HEAVY EIGHT SPOKED ASTERISKaLIGHT THREE POINTED BLACK STAR",
    "aMEDIUM THREE POINTED BLACK STARaTHREE POINTED BLACK STARaMEDIUM THREE POINTED PINWHEEL STAR",
    "aLIGHT FOUR POINTED BLACK STARaMEDIUM FOUR POINTED BLACK STARaFOUR POINTED BLACK STAR",
    "aMEDIUM FOUR POINTED PINWHEEL STARaREVERSE LIGHT FOUR POINTED PINWHEEL STAR",
    "aLIGHT FIVE POINTED BLACK STARaHEAVY FIVE POINTED BLACK STARaMEDIUM SIX POINTED BLACK STAR",
    "aHEAVY SIX POINTED BLACK STARaSIX POINTED PINWHEEL STARaMEDIUM EIGHT POINTED BLACK STAR",
    "aHEAVY EIGHT POINTED BLACK STARaVERY HEAVY EIGHT POINTED BLACK STAR",
    "aHEAVY EIGHT POINTED PINWHEEL STARaLIGHT TWELVE POINTED BLACK STAR",
    "aHEAVY TWELVE POINTED BLACK STARvPINWHEEL STARaCIRCLED TRIANGLEaNEGATIVE CIRCLED TRIANGLE",
    "aCIRCLED SQUAREaNEGATIVE CIRCLED SQUARE+8aLARGE ORANGE CIRCLEgYELLOW CIRCLEgGREEN CIRCLE",
    "gPURPLE CIRCLEgBROWN CIRCLEgRED SQUAREgBLUE SQUAREgORANGE SQUAREgYELLOW SQUAREgGREEN SQUARE",
    "gPURPLE SQUAREgBROWN SQUARE+5aHEAVY EQUALS SIGN",
    "+16aLEFTWARDS ARROW WITH SMALL TRIANGLE ARROWHEADaUPWARDS ARROW WITH SMALL TRIANGLE ARROWHEAD",
    "aRIGHTWARDS ARROW WITH SMALL TRIANGLE ARROWHEADaDOWNWARDS ARROW WITH SMALL TRIANGLE ARROWHEAD",
    "aLEFTWARDS ARROW WITH MEDIUM TRIANGLE ARROWHEADaUPWARDS ARROW WITH MEDIUM TRIANGLE ARROWHEAD",
    "aRIGHTWARDS ARROW WITH MEDIUM TRIANGLE ARROWHEAD",
    "aDOWNWARDS ARROW WITH MEDIUM TRIANGLE ARROWHEADaLEFTWARDS ARROW WITH LARGE TRIANGLE ARROWHEAD",
    "aUPWARDS ARROW WITH LARGE TRIANGLE ARROWHEADaRIGHTWARDS ARROW WITH LARGE TRIANGLE ARROWHEAD",
    "aDOWNWARDS ARROW WITH LARGE TRIANGLE ARROWHEAD",
    "+5aLEFTWARDS ARROW WITH SMALL EQUILATERAL ARROWHEAD",
    "aUPWARDS ARROW WITH SMALL EQUILATERAL ARROWHEAD",
    "aRIGHTWARDS ARROW WITH SMALL EQUILATERAL ARROWHEAD",
    "aDOWNWARDS ARROW WITH SMALL EQUILATERAL ARROWHEADaLEFTWARDS ARROW WITH EQUILATERAL ARROWHEAD",
    "aUPWARDS ARROW WITH EQUILATERAL ARROWHEADaRIGHTWARDS ARROW WITH EQUILATERAL ARROWHEAD",
    "aDOWNWARDS ARROW WITH EQUILATERAL ARROWHEADaHEAVY LEFTWARDS ARROW WITH EQUILATERAL ARROWHEAD",
    "gUPWARDS ARROW WITH EQUILATERAL ARROWHEADgRIGHTWARDS ARROW WITH EQUILATERAL ARROWHEAD",
    "gDOWNWARDS ARROW WITH EQUILATERAL ARROWHEADgLEFTWARDS ARROW WITH LARGE EQUILATERAL ARROWHEAD",
    "gUPWARDS ARROW WITH LARGE EQUILATERAL ARROWHEAD",
    "gRIGHTWARDS ARROW WITH LARGE EQUILATERAL ARROWHEAD",
    "gDOWNWARDS ARROW WITH LARGE EQUILATERAL ARROWHEAD",
    "aLEFTWARDS TRIANGLE-HEADED ARROW WITH NARROW SHAFT",
    "aUPWARDS TRIANGLE-HEADED ARROW WITH NARROW SHAFT",
    "aRIGHTWARDS TRIANGLE-HEADED ARROW WITH NARROW SHAFT",
    "aDOWNWARDS TRIANGLE-HEADED ARROW WITH NARROW SHAFT",
    "aLEFTWARDS TRIANGLE-HEADED ARROW WITH MEDIUM SHAFT",
    "aUPWARDS TRIANGLE-HEADED ARROW WITH MEDIUM SHAFT",
    "aRIGHTWARDS TRIANGLE-HEADED ARROW WITH MEDIUM SHAFT",
    "aDOWNWARDS TRIANGLE-HEADED ARROW WITH MEDIUM SHAFT",
    "aLEFTWARDS TRIANGLE-HEADED ARROW WITH BOLD SHAFT",
    "aUPWARDS TRIANGLE-HEADED ARROW WITH BOLD SHAFT",
    "aRIGHTWARDS TRIANGLE-HEADED ARROW WITH BOLD SHAFT",
    "aDOWNWARDS TRIANGLE-HEADED ARROW WITH BOLD SHAFT",
    "aLEFTWARDS TRIANGLE-HEADED ARROW WITH HEAVY SHAFT",
    "aUPWARDS TRIANGLE-HEADED ARROW WITH HEAVY SHAFT",
    "aRIGHTWARDS TRIANGLE-HEADED ARROW WITH HEAVY SHAFT",
    "aDOWNWARDS TRIANGLE-HEADED ARROW WITH HEAVY SHAFT",
    "aLEFTWARDS TRIANGLE-HEADED ARROW WITH VERY HEAVY SHAFT",
    "aUPWARDS TRIANGLE-HEADED ARROW WITH VERY HEAVY SHAFT",
    "aRIGHTWARDS TRIANGLE-HEADED ARROW WITH VERY HEAVY SHAFT",
    "aDOWNWARDS TRIANGLE-HEADED ARROW WITH VERY HEAVY SHAFTaLEFTWARDS FINGER-POST ARROW",
    "aUPWARDS FINGER-POST ARROWaRIGHTWARDS FINGER-POST ARROWaDOWNWARDS FINGER-POST ARROW",
    "aLEFTWARDS SQUARED ARROWaUPWARDS SQUARED ARROWaRIGHTWARDS SQUARED ARROW",
    "aDOWNWARDS SQUARED ARROWaLEFTWARDS COMPRESSED ARROWaUPWARDS COMPRESSED ARROW",
    "aRIGHTWARDS COMPRESSED ARROWaDOWNWARDS COMPRESSED ARROWaLEFTWARDS HEAVY COMPRESSED ARROW",
    "aUPWARDS HEAVY COMPRESSED ARROWaRIGHTWARDS HEAVY COMPRESSED ARROW",
    "aDOWNWARDS HEAVY COMPRESSED ARROWaLEFTWARDS HEAVY ARROWaUPWARDS HEAVY ARROW",
    "aRIGHTWARDS HEAVY ARROWaDOWNWARDS HEAVY ARROW+9aLEFTWARDS SANS-SERIF ARROW",
    "aUPWARDS SANS-SERIF ARROWaRIGHTWARDS SANS-SERIF ARROWaDOWNWARDS SANS-SERIF ARROW",
    "aNORTH WEST SANS-SERIF ARROWgEAST SANS-SERIF ARROWaSOUTH EAST SANS-SERIF ARROW",
    "gWEST SANS-SERIF ARROWaLEFT RIGHT SANS-SERIF ARROWaUP DOWN SANS-SERIF ARROW",
    "+7aWIDE-HEADED LEFTWARDS LIGHT BARB ARROWmUPWARDS LIGHT BARB ARROW",
    "mRIGHTWARDS LIGHT BARB ARROWmDOWNWARDS LIGHT BARB ARROWmNORTH WEST LIGHT BARB ARROW",
    "sEAST LIGHT BARB ARROWmSOUTH EAST LIGHT BARB ARROWsWEST LIGHT BARB ARROWmLEFTWARDS BARB ARROW",
    "mUPWARDS BARB ARROWmRIGHTWARDS BARB ARROWmDOWNWARDS BARB ARROWmNORTH WEST BARB ARROW",
    "sEAST BARB ARROWmSOUTH EAST BARB ARROWsWEST BARB ARROWmLEFTWARDS MEDIUM BARB ARROW",
    "mUPWARDS MEDIUM BARB ARROWmRIGHTWARDS MEDIUM BARB ARROWmDOWNWARDS MEDIUM BARB ARROW",
    "mNORTH WEST MEDIUM BARB ARROWsEAST MEDIUM BARB ARROWmSOUTH EAST MEDIUM BARB ARROW",
    "sWEST MEDIUM BARB ARROWmLEFTWARDS HEAVY BARB ARROWmUPWARDS HEAVY BARB ARROW",
    "mRIGHTWARDS HEAVY BARB ARROWmDOWNWARDS HEAVY BARB ARROWmNORTH WEST HEAVY BARB ARROW",
    "sEAST HEAVY BARB ARROWmSOUTH EAST HEAVY BARB ARROWsWEST HEAVY BARB ARROW",
    "mLEFTWARDS VERY HEAVY BARB ARROWmUPWARDS VERY HEAVY BARB ARROW",
    "mRIGHTWARDS VERY HEAVY BARB ARROWmDOWNWARDS VERY HEAVY BARB ARROW",
    "mNORTH WEST VERY HEAVY BARB ARROWsEAST VERY HEAVY BARB ARROWmSOUTH EAST VERY HEAVY BARB ARROW",
    "sWEST VERY HEAVY BARB ARROW+9aLEFTWARDS TRIANGLE ARROWHEADaUPWARDS TRIANGLE ARROWHEAD",
    "aRIGHTWARDS TRIANGLE ARROWHEADaDOWNWARDS TRIANGLE ARROWHEAD",
    "aLEFTWARDS WHITE ARROW WITHIN TRIANGLE ARROWHEAD",
    "aUPWARDS WHITE ARROW WITHIN TRIANGLE ARROWHEAD",
    "aRIGHTWARDS WHITE ARROW WITHIN TRIANGLE ARROWHEAD",
    "aDOWNWARDS WHITE ARROW WITHIN TRIANGLE ARROWHEADaLEFTWARDS ARROW WITH NOTCHED TAIL",
    "aUPWARDS ARROW WITH NOTCHED TAILaRIGHTWARDS ARROW WITH NOTCHED TAIL",
    "aDOWNWARDS ARROW WITH NOTCHED TAILaHEAVY ARROW SHAFT WIDTH ONEyTWO THIRDSyONE HALFbcTHIRD",
    "aLEFTWARDS BOTTOM-SHADED WHITE ARROWaRIGHTWARDS BOTTOM SHADED WHITE ARROW",
    "aLEFTWARDS TOP SHADED WHITE ARROWaRIGHTWARDS TOP SHADED WHITE ARROW",
    "aLEFTWARDS LEFT-SHADED WHITE ARROWaRIGHTWARDS RIGHT-SHADED WHITE ARROW",
    "aLEFTWARDS RIGHT-SHADED WHITE ARROWaRIGHTWARDS LEFT-SHADED WHITE ARROW",
    "aLEFTWARDS BACK-TILTED SHADOWED WHITE ARROWaRIGHTWARDS BACK-TILTED SHADOWED WHITE ARROW",
    "aLEFTWARDS FRONT-TILTED SHADOWED WHITE ARROWaRIGHTWARDS FRONT-TILTED SHADOWED WHITE ARROW",
    "aWHITE ARROW SHAFT WIDTH ONEyTWO THIRDS+3aARROW POINTING UPWARDS THEN NORTH WEST",
    "pRIGHTWARDS THEN CURVING SOUTH WEST+79aCIRCLED CROSS FORMEE WITH FOUR DOTSbaTWO DOTSu",
    "+1aLEFT HALF CIRCLE WITH FOUR DOTSwTHREE DOTSxWO DOTSwDOTq+1aDOWNWARD FACING HOOK",
    "qNOTCHED HOOKqHOOK WITH DOTqNOTCHED HOOK WITH DOTaPINCHED FINGERSaWHITE HEARTaBROWN HEART",
    "aPINCHING HANDaZIPPER-MOUTH FACEaMONEY-MOUTH FACEaFACE WITH THERMOMETERaNERD FACE",
    "aTHINKING FACEaFACE WITH HEAD-BANDAGEaROBOT FACEaHUGGING FACEaSIGN OF THE HORNSaCALL ME HAND",
    "aRAISED BACK OF HANDaLEFT-FACING FISTaRIGHT-FACING FISTaHANDSHAKE",
    "e WITH INDEX AND MIDDLE FINGERS CROSSEDaI LOVE YOU HAND SIGNaFACE WITH COWBOY HATaCLOWN FACE",
    "aNAUSEATED FACEaROLLING ON THE FLOOR LAUGHINGaDROOLING FACEaLYING FACEaFACE PALM",
    "aSNEEZING FACEaFACE WITH ONE EYEBROW RAISEDaGRINNING FACE WITH STAR EYES",
    "tONE LARGE AND ONE SMALL EYEaFACE WITH FINGER COVERING CLOSED LIPS",
    "aSERIOUS FACE WITH SYMBOLS COVERING MOUTH",
    "bMILING FACE WITH SMILING EYES AND HAND COVERING MOUTHaFACE WITH OPEN MOUTH VOMITING",
    "aSHOCKED FACE WITH EXPLODING HEADaPREGNANT WOMANaBREAST-FEEDINGaPALMS UP TOGETHERaSELFIE",
    "aPRINCEaMAN IN TUXEDObOTHER CHRISTMASaSHRUGaPERSON DOING CARTWHEELaJUGGLINGaFENCER",
    "aMODERN PENTATHLONaWRESTLERSbATER POLOaHANDBALLaDIVING MASKaWILTED FLOWER",
    "aDRUM WITH DRUMSTICKSaCLINKING GLASSESaTUMBLER GLASSaSPOONaGOAL NETaRIFLEaFIRST PLACE MEDAL",
    "aSECOND PLACE MEDALaTHIRD PLACE MEDALaBOXING GLOVEaMARTIAL ARTS UNIFORMaCURLING STONE",
    "aLACROSSE STICK AND BALLaSOFTBALLaFLYING DISCaCROISSANTaAVOCADOaCUCUMBERaBACONaPOTATOaCARROT",
    "aBAGUETTE BREADaGREEN SALADaSHALLOW PAN OF FOODbTUFFED FLATBREADaEGGaGLASS OF MILKaPEANUTS",
    "aKIWIFRUITaPANCAKESaDUMPLINGaFORTUNE COOKIEaTAKEOUT BOXaCHOPSTICKSaBOWL WITH SPOON",
    "aCUP WITH STRAWbOCONUTaBROCCOLIaPIEbRETZELaCUT OF MEATaSANDWICHaCANNED FOODaLEAFY GREENaMANGO",
    "bOON CAKEaBAGELaSMILING FACE WITH SMILING EYES AND THREE HEARTSaYAWNING FACE",
    "aSMILING FACE WITH TEARaFACE WITH PARTY HORN AND PARTY HATkUNEVEN EYES AND WAVY MOUTH",
    "aOVERHEATED FACEaFREEZING FACEaNINJAaDISGUISED FACEaFACE HOLDING BACK TEARS",
    "fWITH PLEADING EYESaSARIaLAB COATaGOGGLESaHIKING BOOTaFLAT SHOEaCRABaLION FACEaSCORPION",
    "aTURKEYaUNICORN FACEaEAGLEaDUCKaBATaSHARKaOWLaFOX FACEaBUTTERFLYaDEERaGORILLAaLIZARD",
    "aRHINOCEROSaSHRIMPbQUIDaGIRAFFE FACEaZEBRA FACEaHEDGEHOGaSAUROPODaT-REXaCRICKETaKANGAROO",
    "aLLAMAaPEACOCKaHIPPOPOTAMUSaPARROTaRACCOONaLOBSTERaMOSQUITObICROBEaBADGERaSWANaMAMMOTHaDODO",
    "aSLOTHaOTTERbRANGUTANaSKUNKaFLAMINGOaOYSTERaBEAVERbISONaSEALaGUIDE DOGaPROBING CANE",
    "aEMOJI COMPONENT RED HAIRqCURLY HAIRqBALDqWHITE HAIRaBONEaLEGaFOOTaTOOTHaSUPERHEROfVILLAIN",
    "bAFETY VESTaEAR WITH HEARING AIDaMOTORIZED WHEELCHAIRbANUAL WHEELCHAIRbECHANICAL ARMlLEG",
    "aCHEESE WEDGEbUPCAKEaSALT SHAKERaBEVERAGE BOXaGARLICaONIONaFALAFELaWAFFLEaBUTTERaMATE DRINK",
    "aICE CUBEaBUBBLE TEAaTROLLaSTANDING PERSONaKNEELING PERSONaDEAF PERSONaFACE WITH MONOCLE",
    "aADULTaCHILDaOLDER ADULTaBEARDED PERSONaPERSON WITH HEADSCARFhIN STEAMY ROOMhCLIMBING",
    "hIN LOTUS POSITIONaMAGEaFAIRYaVAMPIREaMERPERSONaELFaGENIEaZOMBIEaBRAINaORANGE HEART",
    "aBILLED CAPaSCARFaGLOVESaCOATaSOCKSaRED GIFT ENVELOPEaFIRECRACKERaJIGSAW PUZZLE PIECE",
    "aTEST TUBEaPETRI DISHaDNA DOUBLE HELIXaCOMPASSaABACUSaFIRE EXTINGUISHERaTOOLBOXaBRICKaMAGNET",
    "aLUGGAGEbOTION BOTTLEaSPOOL OF THREADaBALL OF YARNaSAFETY PINaTEDDY BEARaBROOMbASKET",
    "aROLL OF PAPERaBAR OF SOAPaSPONGEaRECEIPTaNAZAR AMULETbEUTRAL CHESS KINGoQUEENoROOKoBISHOP",
    "oKNIGHToPAWNaWHITE CHESS KNIGHT ROTATED FORTY-FIVE DEGREES",
    "aBLACK CHESS KNIGHT ROTATED FORTY-FIVE DEGREES",
    "aNEUTRAL CHESS KNIGHT ROTATED FORTY-FIVE DEGREESaWHITE CHESS KING ROTATED NINETY DEGREES",
    "mQUEEN ROTATED NINETY DEGREESmROOK ROTATED NINETY DEGREESmBISHOP ROTATED NINETY DEGREES",
    "mKNIGHT ROTATED NINETY DEGREESmPAWN ROTATED NINETY DEGREES",
    "aBLACK CHESS KING ROTATED NINETY DEGREESmQUEEN ROTATED NINETY DEGREES",
    "mROOK ROTATED NINETY DEGREESmBISHOP ROTATED NINETY DEGREESmKNIGHT ROTATED NINETY DEGREES",
    "mPAWN ROTATED NINETY DEGREESaNEUTRAL CHESS KING ROTATED NINETY DEGREES",
    "oQUEEN ROTATED NINETY DEGREESoROOK ROTATED NINETY DEGREESoBISHOP ROTATED NINETY DEGREES",
    "oKNIGHT ROTATED NINETY DEGREESoPAWN ROTATED NINETY DEGREES",
    "aWHITE CHESS KNIGHT ROTATED ONE HUNDRED THIRTY-FIVE DEGREES",
    "aBLACK CHESS KNIGHT ROTATED ONE HUNDRED THIRTY-FIVE DEGREES",
    "aNEUTRAL CHESS KNIGHT ROTATED ONE HUNDRED THIRTY-FIVE DEGREESaWHITE CHESS TURNED KINGtQUEEN",
    "tROOKtBISHOPtKNIGHTtPAWNaBLACK CHESS TURNED KINGtQUEENtROOKtBISHOPtKNIGHTtPAWN",
    "aNEUTRAL CHESS TURNED KINGvQUEENvROOKvBISHOPvKNIGHTvPAWN",
    "aWHITE CHESS KNIGHT ROTATED TWO HUNDRED TWENTY-FIVE DEGREES",
    "aBLACK CHESS KNIGHT ROTATED TWO HUNDRED TWENTY-FIVE DEGREES",
    "aNEUTRAL CHESS KNIGHT ROTATED TWO HUNDRED TWENTY-FIVE DEGREES",
    "aWHITE CHESS KING ROTATED TWO HUNDRED SEVENTY DEGREES",
    "mQUEEN ROTATED TWO HUNDRED SEVENTY DEGREESmROOK ROTATED TWO HUNDRED SEVENTY DEGREES",
    "mBISHOP ROTATED TWO HUNDRED SEVENTY DEGREESmKNIGHT ROTATED TWO HUNDRED SEVENTY DEGREES",
    "mPAWN ROTATED TWO HUNDRED SEVENTY DEGREES",
    "aBLACK CHESS KING ROTATED TWO HUNDRED SEVENTY DEGREES",
    "mQUEEN ROTATED TWO HUNDRED SEVENTY DEGREESmROOK ROTATED TWO HUNDRED SEVENTY DEGREES",
    "mBISHOP ROTATED TWO HUNDRED SEVENTY DEGREESmKNIGHT ROTATED TWO HUNDRED SEVENTY DEGREES",
    "mPAWN ROTATED TWO HUNDRED SEVENTY DEGREES",
    "aNEUTRAL CHESS KING ROTATED TWO HUNDRED SEVENTY DEGREES",
    "oQUEEN ROTATED TWO HUNDRED SEVENTY DEGREESoROOK ROTATED TWO HUNDRED SEVENTY DEGREES",
    "oBISHOP ROTATED TWO HUNDRED SEVENTY DEGREESoKNIGHT ROTATED TWO HUNDRED SEVENTY DEGREES",
    "oPAWN ROTATED TWO HUNDRED SEVENTY DEGREES",
    "aWHITE CHESS KNIGHT ROTATED THREE HUNDRED FIFTEEN DEGREES",
    "aBLACK CHESS KNIGHT ROTATED THREE HUNDRED FIFTEEN DEGREES",
    "aNEUTRAL CHESS KNIGHT ROTATED THREE HUNDRED FIFTEEN DEGREESaWHITE CHESS EQUIHOPPER",
    "aBLACK CHESS EQUIHOPPERaNEUTRAL CHESS EQUIHOPPER",
    "aWHITE CHESS EQUIHOPPER ROTATED NINETY DEGREESaBLACK CHESS EQUIHOPPER ROTATED NINETY DEGREES",
    "aNEUTRAL CHESS EQUIHOPPER ROTATED NINETY DEGREESaWHITE CHESS KNIGHT-QUEENtROOKtBISHOP",
    "aBLACK CHESS KNIGHT-QUEENtROOKtBISHOP+13aXIANGQI RED GENERALmMANDARINmELEPHANTmHORSEmCHARIOT",
    "nANNONmSOLDIERiBLACK GENERALoMANDARINoELEPHANToHORSEoCHARIOTpANNONoSOLDIER+3aBALLET SHOES",
    "aONE-PIECE SWIMSUITaBRIEFSaSHORTSaTHONG SANDAL+4aDROP OF BLOODaADHESIVE BANDAGEaSTETHOSCOPE",
    "aX-RAYaCRUTCH+4aYO-YOaKITEaPARACHUTEaBOOMERANGaMAGIC WANDaPINATAaNESTING DOLLS",
    "+10aRINGED PLANETaCHAIRaRAZORaAXEaDIYA LAMPaBANJOaMILITARY HELMETaACCORDIONaLONG DRUMaCOIN",
    "bARPENTRY SAWaSCREWDRIVERaLADDERaHOOKaMIRRORaWINDOWaPLUNGERaSEWING NEEDLEaKNOTaBUCKET",
    "aMOUSE TRAPaTOOTHBRUSHaHEADSTONEaPLACARDaROCKaMIRROR BALLaIDENTIFICATION CARDaLOW BATTERY",
    "aHAMSA+4aFLYaWORMaBEETLEaCOCKROACHaPOTTED PLANTaWOODaFEATHERaLOTUSaCORALaEMPTY NEST",
    "aNEST WITH EGGS+6aANATOMICAL HEARTaLUNGSaPEOPLE HUGGINGbREGNANT MANjPERSONbERSON WITH CROWN",
    "+11aBLUEBERRIESbELL PEPPERaOLIVEaFLATBREADaTAMALEaFONDUEaTEAPOTaPOURING LIQUIDaBEANSaJAR",
    "+7aMELTING FACEaSALUTING FACEaFACE WITH OPEN EYES AND HAND OVER MOUTHkPEEKING EYE",
    "kDIAGONAL MOUTHaDOTTED LINE FACEaBITING LIPbUBBLES+9aHAND WITH INDEX FINGER AND THUMB CROSSED",
    "aRIGHTWARDS HANDaLEFTWARDS HANDaPALM DOWN HANDfUP HANDaINDEX POINTING AT THE VIEWER",
    "aHEART HANDS+10aBLOCK SEXTANT-1o2o12o3o13o23o123o4o14o24o124o34o134o234o1234o5o15o25o125o35",
    "o235o1235o45o145o245o1245o345o1345o2345o12345o6o16o26o126o36o136o236o1236o46o146p246o346o1346",
    "o2346o12346o56o156o256o1256o356o1356o2356o12356o456o1456o2456o12456o3456o13456o23456",
    "aLOWER LEFT BLOCK DIAGONAL LOWER MIDDLE LEFT TO LOWER CENTREcbRIGHT",
    "baUPPER MIDDLE LEFT TO LOWER CENTREcbRIGHTbgLEFT TO LOWER CENTRE",
    "gRIGHT BLOCK DIAGONAL UPPER MIDDLE LEFT TO UPPER CENTREccRIGHT",
    "bbLOWER MIDDLE LEFT TO UPPER CENTREccRIGHTbhLEFT TO UPPER CENTRE",
    "bhMIDDLE LEFT TO UPPER MIDDLE RIGHTbhCENTRE TO LOWER MIDDLE RIGHTbhLEFT TO LOWER MIDDLE RIGHT",
    "bhCENTRE TO UPPER MIDDLE RIGHTbhLEFT TO UPPER MIDDLE RIGHTbhCENTRE TO UPPER RIGHT",
    "gLEFT BLOCK DIAGONAL UPPER CENTRE TO UPPER MIDDLE RIGHTbgLEFT TO UPPER MIDDLE RIGHT",
    "bgCENTRE TO LOWER MIDDLE RIGHTbgLEFT TO LOWER MIDDLE RIGHTbgCENTRE TO LOWER RIGHT",
    "bgMIDDLE LEFT TO LOWER MIDDLE RIGHT",
    "aUPPER RIGHT BLOCK DIAGONAL LOWER MIDDLE LEFT TO LOWER CENTREccRIGHT",
    "bbUPPER MIDDLE LEFT TO LOWER CENTREccRIGHTbhLEFT TO LOWER CENTRE",
    "gLEFT BLOCK DIAGONAL UPPER MIDDLE LEFT TO UPPER CENTREcbRIGHT",
    "baLOWER MIDDLE LEFT TO UPPER CENTREcbRIGHTbgLEFT TO UPPER CENTRE",
    "bgMIDDLE LEFT TO UPPER MIDDLE RIGHTbgCENTRE TO LOWER MIDDLE RIGHTbgLEFT TO LOWER MIDDLE RIGHT",
    "bgCENTRE TO UPPER MIDDLE RIGHTbgLEFT TO UPPER MIDDLE RIGHTbgCENTRE TO UPPER RIGHT",
    "gRIGHT BLOCK DIAGONAL UPPER CENTRE TO UPPER MIDDLE RIGHTbhLEFT TO UPPER MIDDLE RIGHT",
    "bhCENTRE TO LOWER MIDDLE RIGHTbhLEFT TO LOWER MIDDLE RIGHTbhCENTRE TO LOWER RIGHT",
    "bhMIDDLE LEFT TO LOWER MIDDLE RIGHTgAND RIGHT AND LOWER TRIANGULAR THREE QUARTERS BLOCK",
    "aLEFT AND LOWER AND RIGHT TRIANGULAR THREE QUARTERS BLOCK",
    "aUPPER AND LEFT AND LOWER TRIANGULAR THREE QUARTERS BLOCK",
    "aLEFT AND UPPER AND RIGHT TRIANGULAR THREE QUARTERS BLOCKfTRIANGULAR ONE QUARTER BLOCK",
    "aUPPER TRIANGULAR ONE QUARTER BLOCKaRIGHT TRIANGULAR ONE QUARTER BLOCK",
    "aLOWER TRIANGULAR ONE QUARTER BLOCKaVERTICAL ONE EIGHTH BLOCK-2ba3ba4ba5ba6ba7",
    "aHORIZONTAL ONE EIGHTH BLOCK-2bc3bc4bc5bc6bc7aLEFT AND LOWER ONE EIGHTH BLOCK",
    "jUPPER ONE EIGHTH BLOCKaRIGHT AND UPPER ONE EIGHTH BLOCKkLOWER ONE EIGHTH BLOCK",
    "aUPPER AND LOWER ONE EIGHTH BLOCKaHORIZONTAL ONE EIGHTH BLOCK-1358aUPPER ONE QUARTER BLOCK",
    "gTHREE EIGHTHS BLOCKgFIVE EIGHTHS BLOCKgTHREE QUARTERS BLOCKgSEVEN EIGHTHS BLOCK",
    "aRIGHT ONE QUARTER BLOCKgTHREE EIGHTHS BLOCKgFIVE EIGHTHS BLOCKgTHREE QUARTERS BLOCK",
    "gSEVEN EIGHTHS BLOCKaLEFT HALF MEDIUM SHADEaRIGHT HALF MEDIUM SHADEaUPPER HALF MEDIUM SHADE",
    "aLOWER HALF MEDIUM SHADEaINVERSE MEDIUM SHADE",
    "aUPPER HALF BLOCK AND LOWER HALF INVERSE MEDIUM SHADE",
    "lINVERSE MEDIUM SHADE AND LOWER HALF BLOCK",
    "+2aLEFT HALF INVERSE MEDIUM SHADE AND RIGHT HALF BLOCKaCHECKER BOARD FILL",
    "aINVERSE CHECKER BOARD FILLaHEAVY HORIZONTAL FILLaUPPER LEFT TO LOWER RIGHT FILL",
    "gRIGHT TO LOWER LEFT FILLgAND LOWER TRIANGULAR HALF BLOCK",
    "aLEFT AND RIGHT TRIANGULAR HALF BLOCKaUPPER LEFT TRIANGULAR MEDIUM SHADE",
    "gRIGHT TRIANGULAR MEDIUM SHADEaLOWER RIGHT TRIANGULAR MEDIUM SHADE",
    "gLEFT TRIANGULAR MEDIUM SHADEaBOX DRAWINGS LIGHT DIAGONAL UPPER CENTRE TO MIDDLE LEFTbzRIGHT",
    "bcMIDDLE LEFT TO LOWER CENTREbjRIGHT TO LOWER CENTRE",
    "bcUPPER CENTRE TO MIDDLE LEFT TO LOWER CENTREbzRIGHT TO LOWER CENTRE",
    "bcMIDDLE LEFT TO LOWER CENTRE TO MIDDLE RIGHTbrUPPER CENTRE TO MIDDLE RIGHT",
    "bcUPPER CENTRE TO MIDDLE LEFT AND MIDDLE RIGHT TO LOWER CENTRE",
    "bzRIGHT AND MIDDLE LEFT TO LOWER CENTREcfTO LOWER CENTRE TO MIDDLE LEFT",
    "bzLEFT TO LOWER CENTRE TO MIDDLE RIGHT",
    "bcMIDDLE LEFT TO UPPER CENTRE TO MIDDLE RIGHT TO LOWER CENTRE",
    "bjRIGHT TO UPPER CENTRE TO MIDDLE LEFT TO LOWER CENTREbcDIAMOND",
    "tHORIZONTAL WITH VERTICAL STROKEaARROWHEAD-SHAPED POINTERaINVERSE CHECK MARK",
    "aLEFT HALF RUNNING MANaRIGHT HALF RUNNING MANaINVERSE DOWNWARDS ARROW WITH TIP LEFTWARDS",
    "aLEFTWARDS ARROW AND UPPER AND LOWER ONE EIGHTH BLOCK",
    "aRIGHTWARDS ARROW AND UPPER AND LOWER ONE EIGHTH BLOCK",
    "aDOWNWARDS ARROW AND RIGHT ONE EIGHTH BLOCKaUPWARDS ARROW AND RIGHT ONE EIGHTH BLOCK",
    "aLEFT HALF FOLDERaRIGHT HALF FOLDERaVOIDED GREEK CROSSaRIGHT OPEN SQUARED DOT",
    "aNEGATIVE DIAGONAL CROSSsMIDDLE RIGHT TO LOWER CENTREsDIAMOND",
    "aWHITE HEAVY SALTIRE WITH ROUNDED CORNERSaLEFT THIRD WHITE RIGHT POINTING INDEX",
    "aMIDDLE THIRD WHITE RIGHT POINTING INDEXaRIGHT THIRD WHITE RIGHT POINTING INDEX",
    "aNEGATIVE SQUARED QUESTION MARKaSTICK FIGUREm WITH ARMS RAISEDnLEANING LEFTvRIGHTnWITH DRESS",
    "aWHITE UP-POINTING CHEVRON+38aSEGMENTED DIGIT ZEROqONEqTWOrHREEqFOURrIVEqSIXrEVENqEIGHTqNINE",
    "+787464aLANGUAGE TAG+31aTAG SPACEeEXCLAMATION MARKeQUOTATION MARKeNUMBER SIGNeDOLLAR SIGN",
    "ePERCENT SIGNeAMPERSANDfPOSTROPHEeLEFT PARENTHESISeRIGHT PARENTHESISeASTERISKePLUS SIGNeCOMMA",
    "eHYPHEN-MINUSeFULL STOPeSOLIDUSeDIGIT ZEROkONEkTWOlHREEkFOURlIVEkSIXlEVENkEIGHTkNINEeCOLON",
    "eSEMICOLONeLESS-THAN SIGNeEQUALS SIGNeGREATER-THAN SIGNeQUESTION MARKeCOMMERCIAL AT",
    "eLATIN CAPITAL LETTER AzBzCzDzEzFzGzHzIzJzKzLzMzNzOzPzQzRzSzTzUzVzWzXzYzZfEFT SQUARE BRACKET",
    "eREVERSE SOLIDUSfIGHT SQUARE BRACKETeCIRCUMFLEX ACCENTeLOW LINEeGRAVE ACCENT",
    "eLATIN SMALL LETTER AxBxCxDxExFxGxHxIxJxKxLxMxNxOxPxQxRxSxTxUxVxWxXxYxZfEFT CURLY BRACKET",
    "eVERTICAL LINEeRIGHT CURLY BRACKETeTILDEaCANCEL TAG+129aVARIATION SELECTOR-17+0bS17",
    "bARIATION SELECTOR-18+0bS18bARIATION SELECTOR-19+0bS19bARIATION SELECTOR-20+0bS20",
    "bARIATION SELECTOR-21+0bS21bARIATION SELECTOR-22+0bS22bARIATION SELECTOR-23+0bS23",
    "bARIATION SELECTOR-24+0bS24bARIATION SELECTOR-25+0bS25bARIATION SELECTOR-26+0bS26",
    "bARIATION SELECTOR-27+0bS27bARIATION SELECTOR-28+0bS28bARIATION SELECTOR-29+0bS29",
    "bARIATION SELECTOR-30+0bS30bARIATION SELECTOR-31+0bS31bARIATION SELECTOR-32+0bS32",
    "bARIATION SELECTOR-33+0bS33bARIATION SELECTOR-34+0bS34bARIATION SELECTOR-35+0bS35",
    "bARIATION SELECTOR-36+0bS36bARIATION SELECTOR-37+0bS37bARIATION SELECTOR-38+0bS38",
    "bARIATION SELECTOR-39+0bS39bARIATION SELECTOR-40+0bS40bARIATION SELECTOR-41+0bS41",
    "bARIATION SELECTOR-42+0bS42bARIATION SELECTOR-43+0bS43bARIATION SELECTOR-44+0bS44",
    "bARIATION SELECTOR-45+0bS45bARIATION SELECTOR-46+0bS46bARIATION SELECTOR-47+0bS47",
    "bARIATION SELECTOR-48+0bS48bARIATION SELECTOR-49+0bS49bARIATION SELECTOR-50+0bS50",
    "bARIATION SELECTOR-51+0bS51bARIATION SELECTOR-52+0bS52bARIATION SELECTOR-53+0bS53",
    "bARIATION SELECTOR-54+0bS54bARIATION SELECTOR-55+0bS55bARIATION SELECTOR-56+0bS56",
    "bARIATION SELECTOR-57+0bS57bARIATION SELECTOR-58+0bS58bARIATION SELECTOR-59+0bS59",
    "bARIATION SELECTOR-60+0bS60bARIATION SELECTOR-61+0bS61bARIATION SELECTOR-62+0bS62",
    "bARIATION SELECTOR-63+0bS63bARIATION SELECTOR-64+0bS64bARIATION SELECTOR-65+0bS65",
    "bARIATION SELECTOR-66+0bS66bARIATION SELECTOR-67+0bS67bARIATION SELECTOR-68+0bS68",
    "bARIATION SELECTOR-69+0bS69bARIATION SELECTOR-70+0bS70bARIATION SELECTOR-71+0bS71",
    "bARIATION SELECTOR-72+0bS72bARIATION SELECTOR-73+0bS73bARIATION SELECTOR-74+0bS74",
    "bARIATION SELECTOR-75+0bS75bARIATION SELECTOR-76+0bS76bARIATION SELECTOR-77+0bS77",
    "bARIATION SELECTOR-78+0bS78bARIATION SELECTOR-79+0bS79bARIATION SELECTOR-80+0bS80",
    "bARIATION SELECTOR-81+0bS81bARIATION SELECTOR-82+0bS82bARIATION SELECTOR-83+0bS83",
    "bARIATION SELECTOR-84+0bS84bARIATION SELECTOR-85+0bS85bARIATION SELECTOR-86+0bS86",
    "bARIATION SELECTOR-87+0bS87bARIATION SELECTOR-88+0bS88bARIATION SELECTOR-89+0bS89",
    "bARIATION SELECTOR-90+0bS90bARIATION SELECTOR-91+0bS91bARIATION SELECTOR-92+0bS92",
    "bARIATION SELECTOR-93+0bS93bARIATION SELECTOR-94+0bS94bARIATION SELECTOR-95+0bS95",
    "bARIATION SELECTOR-96+0bS96bARIATION SELECTOR-97+0bS97bARIATION SELECTOR-98+0bS98",
    "bARIATION SELECTOR-99+0bS99bARIATION SELECTOR-100+0bS100bARIATION SELECTOR-101+0bS101",
    "bARIATION SELECTOR-102+0bS102bARIATION SELECTOR-103+0bS103bARIATION SELECTOR-104+0bS104",
    "bARIATION SELECTOR-105+0bS105bARIATION SELECTOR-106+0bS106bARIATION SELECTOR-107+0bS107",
    "bARIATION SELECTOR-108+0bS108bARIATION SELECTOR-109+0bS109bARIATION SELECTOR-110+0bS110",
    "bARIATION SELECTOR-111+0bS111bARIATION SELECTOR-112+0bS112bARIATION SELECTOR-113+0bS113",
    "bARIATION SELECTOR-114+0bS114bARIATION SELECTOR-115+0bS115bARIATION SELECTOR-116+0bS116",
    "bARIATION SELECTOR-117+0bS117bARIATION SELECTOR-118+0bS118bARIATION SELECTOR-119+0bS119",
    "bARIATION SELECTOR-120+0bS120bARIATION SELECTOR-121+0bS121bARIATION SELECTOR-122+0bS122",
    "bARIATION SELECTOR-123+0bS123bARIATION SELECTOR-124+0bS124bARIATION SELECTOR-125+0bS125",
    "bARIATION SELECTOR-126+0bS126bARIATION SELECTOR-127+0bS127bARIATION SELECTOR-128+0bS128",
    "bARIATION SELECTOR-129+0bS129bARIATION SELECTOR-130+0bS130bARIATION SELECTOR-131+0bS131",
    "bARIATION SELECTOR-132+0bS132bARIATION SELECTOR-133+0bS133bARIATION SELECTOR-134+0bS134",
    "bARIATION SELECTOR-135+0bS135bARIATION SELECTOR-136+0bS136bARIATION SELECTOR-137+0bS137",
    "bARIATION SELECTOR-138+0bS138bARIATION SELECTOR-139+0bS139bARIATION SELECTOR-140+0bS140",
    "bARIATION SELECTOR-141+0bS141bARIATION SELECTOR-142+0bS142bARIATION SELECTOR-143+0bS143",
    "bARIATION SELECTOR-144+0bS144bARIATION SELECTOR-145+0bS145bARIATION SELECTOR-146+0bS146",
    "bARIATION SELECTOR-147+0bS147bARIATION SELECTOR-148+0bS148bARIATION SELECTOR-149+0bS149",
    "bARIATION SELECTOR-150+0bS150bARIATION SELECTOR-151+0bS151bARIATION SELECTOR-152+0bS152",
    "bARIATION SELECTOR-153+0bS153bARIATION SELECTOR-154+0bS154bARIATION SELECTOR-155+0bS155",
    "bARIATION SELECTOR-156+0bS156bARIATION SELECTOR-157+0bS157bARIATION SELECTOR-158+0bS158",
    "bARIATION SELECTOR-159+0bS159bARIATION SELECTOR-160+0bS160bARIATION SELECTOR-161+0bS161",
    "bARIATION SELECTOR-162+0bS162bARIATION SELECTOR-163+0bS163bARIATION SELECTOR-164+0bS164",
    "bARIATION SELECTOR-165+0bS165bARIATION SELECTOR-166+0bS166bARIATION SELECTOR-167+0bS167",
    "bARIATION SELECTOR-168+0bS168bARIATION SELECTOR-169+0bS169bARIATION SELECTOR-170+0bS170",
    "bARIATION SELECTOR-171+0bS171bARIATION SELECTOR-172+0bS172bARIATION SELECTOR-173+0bS173",
    "bARIATION SELECTOR-174+0bS174bARIATION SELECTOR-175+0bS175bARIATION SELECTOR-176+0bS176",
    "bARIATION SELECTOR-177+0bS177bARIATION SELECTOR-178+0bS178bARIATION SELECTOR-179+0bS179",
    "bARIATION SELECTOR-180+0bS180bARIATION SELECTOR-181+0bS181bARIATION SELECTOR-182+0bS182",
    "bARIATION SELECTOR-183+0bS183bARIATION SELECTOR-184+0bS184bARIATION SELECTOR-185+0bS185",
    "bARIATION SELECTOR-186+0bS186bARIATION SELECTOR-187+0bS187bARIATION SELECTOR-188+0bS188",
    "bARIATION SELECTOR-189+0bS189bARIATION SELECTOR-190+0bS190bARIATION SELECTOR-191+0bS191",
    "bARIATION SELECTOR-192+0bS192bARIATION SELECTOR-193+0bS193bARIATION SELECTOR-194+0bS194",
    "bARIATION SELECTOR-195+0bS195bARIATION SELECTOR-196+0bS196bARIATION SELECTOR-197+0bS197",
    "bARIATION SELECTOR-198+0bS198bARIATION SELECTOR-199+0bS199bARIATION SELECTOR-200+0bS200",
    "bARIATION SELECTOR-201+0bS201bARIATION SELECTOR-202+0bS202bARIATION SELECTOR-203+0bS203",
    "bARIATION SELECTOR-204+0bS204bARIATION SELECTOR-205+0bS205bARIATION SELECTOR-206+0bS206",
    "bARIATION SELECTOR-207+0bS207bARIATION SELECTOR-208+0bS208bARIATION SELECTOR-209+0bS209",
    "bARIATION SELECTOR-210+0bS210bARIATION SELECTOR-211+0bS211bARIATION SELECTOR-212+0bS212",
    "bARIATION SELECTOR-213+0bS213bARIATION SELECTOR-214+0bS214bARIATION SELECTOR-215+0bS215",
    "bARIATION SELECTOR-216+0bS216bARIATION SELECTOR-217+0bS217bARIATION SELECTOR-218+0bS218",
    "bARIATION SELECTOR-219+0bS219bARIATION SELECTOR-220+0bS220bARIATION SELECTOR-221+0bS221",
    "bARIATION SELECTOR-222+0bS222bARIATION SELECTOR-223+0bS223bARIATION SELECTOR-224+0bS224",
    "bARIATION SELECTOR-225+0bS225bARIATION SELECTOR-226+0bS226bARIATION SELECTOR-227+0bS227",
    "bARIATION SELECTOR-228+0bS228bARIATION SELECTOR-229+0bS229bARIATION SELECTOR-230+0bS230",
    "bARIATION SELECTOR-231+0bS231bARIATION SELECTOR-232+0bS232bARIATION SELECTOR-233+0bS233",
    "bARIATION SELECTOR-234+0bS234bARIATION SELECTOR-235+0bS235bARIATION SELECTOR-236+0bS236",
    "bARIATION SELECTOR-237+0bS237bARIATION SELECTOR-238+0bS238bARIATION SELECTOR-239+0bS239",
    "bARIATION SELECTOR-240+0bS240bARIATION SELECTOR-241+0bS241bARIATION SELECTOR-242+0bS242",
    "bARIATION SELECTOR-243+0bS243bARIATION SELECTOR-244+0bS244bARIATION SELECTOR-245+0bS245",
    "bARIATION SELECTOR-246+0bS246bARIATION SELECTOR-247+0bS247bARIATION SELECTOR-248+0bS248",
    "bARIATION SELECTOR-249+0bS249bARIATION SELECTOR-250+0bS250bARIATION SELECTOR-251+0bS251",
    "bARIATION SELECTOR-252+0bS252bARIATION SELECTOR-253+0bS253bARIATION SELECTOR-254+0bS254",
    "bARIATION SELECTOR-255+0bS255bARIATION SELECTOR-256+0bS256"]

def characterNamed? (name : List Char) : Option Nat :=
  match syllableNamed? name, ideographNamed? name with
  | some code, _ | none, some code => some code
  | none, none =>
    let name := name.map Char.toUpper
    match numberedNamed? name with
    | some code => some code
    | none => NameCursor.find? name {} (nameTable.flatMap String.toList)

end SolidityLint.Text
