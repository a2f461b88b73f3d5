import Literate.Text.Name.Ancient
import Literate.Text.Name.East
import Literate.Text.Name.Letters
import Literate.Text.Name.Pictures
import Literate.Text.Name.Signs
import Literate.Text.Name.Symbols
import Literate.Text.Blank
import Literate.Text.Ranges

/-! Characters by their names. Names stand in rows in the order of their characters: a small letter in
front of each tells how many words it shares with the name before, and a number behind a dot is the
code point of the next one. Syllables and ideographs are named by rule. -/

namespace Literate.Text

/-- further names of characters -/
def aliasNames : List String := [
  ".0aNULL.0aNULaSTART OF HEADING.1aSOHaSTART OF TEXT.2aSTXaEND OF TEXT.3aETXaEND OF TRANSMISSION",
  ".4aEOTaENQUIRY.5aENQaACKNOWLEDGE.6aACKaALERT.7aBELaBACKSPACE.8aBSaCHARACTER TABULATION",
  ".9aHORIZONTAL TABULATION.9aHT.9aTABaLINE FEED.AaNEW LINE.AaEND OF LINE.AaEOL.AaLF.AaNL",
  "aLINE TABULATION.BaVERTICAL TABULATION.BaVTaFORM FEED.CaFFaCARRIAGE RETURN.DaCRaSHIFT OUT",
  ".EaLOCKING-SHIFT ONE.EaSOaSHIFT IN.FaLOCKING-SHIFT ZERO.FaSIaDATA LINK ESCAPE.10aDLE",
  "aDEVICE CONTROL ONE.11aDC1aDEVICE CONTROL TWO.12aDC2aDEVICE CONTROL THREE.13aDC3",
  "aDEVICE CONTROL FOUR.14aDC4aNEGATIVE ACKNOWLEDGE.15aNAKaSYNCHRONOUS IDLE.16aSYN",
  "aEND OF TRANSMISSION BLOCK.17aETBaCANCEL.18aCANaEND OF MEDIUM.19aEOMaSUBSTITUTE.1AaSUBaESCAPE",
  ".1BaESCaINFORMATION SEPARATOR FOUR.1CaFILE SEPARATOR.1CaFSaINFORMATION SEPARATOR THREE",
  ".1DaGROUP SEPARATOR.1DaGSaINFORMATION SEPARATOR TWO.1EaRECORD SEPARATOR.1EaRS",
  "aINFORMATION SEPARATOR ONE.1FaUNIT SEPARATOR.1FaUSaSP.7FaDELETE.7FaDELaPADDING CHARACTER",
  ".80aPADaHIGH OCTET PRESET.81aHOPaBREAK PERMITTED HERE.82aBPHaNO BREAK HERE.83aNBHaINDEX.84aIND",
  "aNEXT LINE.85aNELaSTART OF SELECTED AREA.86aSSAaEND OF SELECTED AREA.87aESA",
  "aCHARACTER TABULATION SET.88aHORIZONTAL TABULATION SET.88aHTS",
  "aCHARACTER TABULATION WITH JUSTIFICATION.89aHORIZONTAL TABULATION WITH JUSTIFICATION.89aHTJ",
  "aLINE TABULATION SET.8AaVERTICAL TABULATION SET.8AaVTSaPARTIAL LINE FORWARD.8BcDOWN.8BaPLD",
  "aPARTIAL LINE BACKWARD.8CcUP.8CaPLUaREVERSE LINE FEED.8DbINDEX.8DaRIaSINGLE SHIFT TWO",
  ".8EaSINGLE-SHIFT-2.8EaSS2aSINGLE SHIFT THREE.8FaSINGLE-SHIFT-3.8FaSS3aDEVICE CONTROL STRING",
  ".90aDCSaPRIVATE USE ONE.91bUSE-1.91aPU1aPRIVATE USE TWO.92bUSE-2.92aPU2aSET TRANSMIT STATE",
  ".93aSTSaCANCEL CHARACTER.94aCCHaMESSAGE WAITING.95aMWaSTART OF GUARDED AREA.96cPROTECTED AREA",
  ".96aSPAaEND OF GUARDED AREA.97cPROTECTED AREA.97aEPAaSTART OF STRING.98aSOS",
  "aSINGLE GRAPHIC CHARACTER INTRODUCER.99aSGCaSINGLE CHARACTER INTRODUCER.9AaSCI",
  "aCONTROL SEQUENCE INTRODUCER.9BaCSIaSTRING TERMINATOR.9CaSTaOPERATING SYSTEM COMMAND.9DaOSC",
  "aPRIVACY MESSAGE.9EaPMaAPPLICATION PROGRAM COMMAND.9FaAPCaNBSP.ADaSHY",
  ".1A2aLATIN CAPITAL LETTER GHAbSMALL LETTER GHA.34FaCGJ.61CaALM",
  ".709aSYRIAC SUBLINEAR COLON SKEWED LEFT.CDEaKANNADA LETTER LLLA.E9DaLAO LETTER FO FON.E9FdFAY",
  ".EA3cRO.EA5cLO.FD0aTIBETAN MARK BKA- SHOG GI MGO RGYAN.11ECaHANGUL JONGSEONG YESIEUNG-KIYEOK",
  "cYESIEUNG-SSANGKIYEOKcSSANGYESIEUNGcYESIEUNG-KHIEUKH.180BaFVS1aFVS2aFVS3aMVSaFVS4.200BaZWSP",
  "aZWNJaZWJaLRMaRLM.202AaLREaRLEaPDFaLROaRLOaNNBSP.205FaMMSPaWJ.2066aLRIaRLIaFSIaPDI",
  ".2118aWEIERSTRASS ELLIPTIC FUNCTION.2448aMICR ON US SYMBOLbDASH SYMBOL",
  ".2B7AaLEFTWARDS TRIANGLE-HEADED ARROW WITH DOUBLE VERTICAL STROKE",
  ".2B7CaRIGHTWARDS TRIANGLE-HEADED ARROW WITH DOUBLE VERTICAL STROKE",
  ".A015aYI SYLLABLE ITERATION MARK.AA6EaMYANMAR LETTER KHAMTI LLA",
  ".FE18aPRESENTATION FORM FOR VERTICAL RIGHT WHITE LENTICULAR BRACKET.FEFFaBYTE ORDER MARK",
  ".FEFFaBOM.FEFFaZWNBSP.122D4aCUNEIFORM SIGN NU11 TENUdOVER NU11 BUR OVER BUR",
  ".16E56aMEDEFAIDRIN CAPITAL LETTER HdNG.16E76bSMALL LETTER HdNG.1B001aHENTAIGANA LETTER E-1",
  ".1D0C5aBYZANTINE MUSICAL SYMBOL FTHORA SKLIRON CHROMA VASIS"]

/-- the pieces of a row, each with the dot or the small letter that it starts with -/
def piecesOf (row : List Char) : List (List Char) :=
  (row.foldr (fun c (held, done) =>
    if c == '.' || c.isLower then ([], (c :: held) :: done) else (c :: held, done)) ([], [])).2

/-- reads rows up to a name; `words` are those of the name before, `next` is the next code point -/
structure NameCursor where
  words : List (List Char) := []
  next : Nat := 0

namespace NameCursor

def readPiece (cursor : NameCursor) : List Char → NameCursor
  | '.' :: code => { cursor with next := (hexNumbers code).headD 0 }
  | c :: rest =>
    let new := if rest.isEmpty then [] else splitAt ' ' rest
    ⟨cursor.words.take (c.toNat - 97) ++ new, cursor.next + 1⟩
  | [] => cursor

/-- the code point of a name in the pieces, or the cursor behind them -/
def inPieces (name : List (List Char)) (cursor : NameCursor) :
    List (List Char) → Except Nat NameCursor
  | [] => .ok cursor
  | piece :: rest =>
    let after := cursor.readPiece piece
    if after.words == name && piece.head? ≠ some '.' then .error cursor.next
    else inPieces name after rest

def inRows (name : List (List Char)) (cursor : NameCursor) : List String → Option Nat
  | [] => none
  | row :: rest =>
    match inPieces name cursor (piecesOf row.toList) with
    | .error code => some code
    | .ok after => inRows name after rest

end NameCursor

/-- the code point of a name in the tables -/
def listed? (name : List Char) : Option Nat :=
  let words := splitAt ' ' (name.map Char.toUpper)
  [letterNames, signNames, eastNames, ancientNames, pictureNames, symbolNames, aliasNames].findSome?
    (NameCursor.inRows words {})

/-- characters that are named by their code points, with what stands in front of these -/
def numberedNames : List (String × List (Nat × Nat)) :=
  [("CJK COMPATIBILITY IDEOGRAPH-", [(0xF900, 0xFA6D), (0xFA70, 0xFAD9), (0x2F800, 0x2FA1D)]),
    ("KHITAN SMALL SCRIPT CHARACTER-", [(0x18B00, 0x18CD5)]),
    ("NUSHU CHARACTER-", [(0x1B170, 0x1B2FB)])]

def unifiedIdeographs : List (Nat × Nat) :=
  [(0x3400, 0x4DBF), (0x4E00, 0x9FFF), (0x20000, 0x2A6DF), (0x2A700, 0x2B738), (0x2B740, 0x2B81D),
    (0x2B820, 0x2CEA1), (0x2CEB0, 0x2EBE0), (0x30000, 0x3134A)]

/-- the code point of which the text is the upper-case number, in four or five digits -/
def codeOfDigits? (s : List Char) : Option Nat :=
  if (s.length == 4 || s.length == 5) && s.all fun c => c.isDigit || ('A' ≤ c && c ≤ 'F') then
    (hexNumbers s).head?
  else none

/-- what stands behind a text in front -/
def behind? (front : String) (s : List Char) : Option (List Char) :=
  if front.toList.isPrefixOf s then some (s.drop front.length) else none

def numbered? (name : List Char) : Option Nat :=
  let name := name.map Char.toUpper
  numberedNames.findSome? fun (front, ranges) => do
    let code ← codeOfDigits? (← behind? front name)
    if inRanges code ranges then some code else none

/-- Capitals only. -/
def unified? (name : List Char) : Option Nat := do
  let code ← codeOfDigits? (← behind? "CJK UNIFIED IDEOGRAPH-" name)
  if inRanges code unifiedIdeographs then some code else none

/-- a decimal number without leading zeros -/
def number? (s : List Char) : Option Nat :=
  if s ≠ [] && s.all Char.isDigit && s.head? ≠ some '0' then
    some (s.foldl (fun n c => n * 10 + (c.toNat - 48)) 0)
  else none

/-- selectors of variants, in full and for short -/
def selector? (name : List Char) : Option Nat := do
  let name := name.map Char.toUpper
  let n ← number? (← behind? "VARIATION SELECTOR-" name <|> behind? "VS" name)
  if n ≤ 16 then some (0xFE00 + n - 1) else if n ≤ 256 then some (0xE0100 + n - 17) else none

def leads : List String :=
  ["G", "GG", "N", "D", "DD", "R", "M", "B", "BB", "S", "SS", "", "J", "JJ", "C", "K", "T", "P", "H"]

def vowels : List String :=
  ["A", "AE", "YA", "YAE", "EO", "E", "YEO", "YE", "O", "WA", "WAE", "OE", "YO", "U", "WEO", "WE",
    "WI", "YU", "EU", "YI", "I"]

def tails : List String :=
  ["", "G", "GG", "GS", "N", "NJ", "NH", "D", "L", "LG", "LM", "LB", "LS", "LT", "LP", "LH", "M",
    "B", "BS", "S", "SS", "NG", "J", "C", "K", "T", "P", "H"]

/-- the rank and the length of the longest sound that a text starts with -/
def longestSound (sounds : List String) (s : List Char) : Option (Nat × Nat) :=
  sounds.zipIdx.foldl (fun best (sound, i) =>
    if sound.toList.isPrefixOf s && best.all (·.2 < sound.length) then some (i, sound.length)
    else best) none

/-- Syllables are named by their sounds, in capitals only. -/
def syllable? (name : List Char) : Option Nat := do
  let s ← behind? "HANGUL SYLLABLE " name
  let (l, n) ← longestSound leads s
  let s := s.drop n
  let (v, n) ← longestSound vowels s
  let s := s.drop n
  let (t, n) ← longestSound tails s
  if s.length = n then some (0xAC00 + (l * 21 + v) * 28 + t) else none

/-- The case of a name is of no account, but for ideographs and syllables. -/
def codeOfName? (name : List Char) : Option Nat :=
  unified? name <|> syllable? name <|> numbered? name <|> selector? name <|> listed? name

end Literate.Text
