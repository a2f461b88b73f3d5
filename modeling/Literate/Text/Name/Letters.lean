/-! Names of characters below U+2000: letters of the scripts in use. -/

namespace Literate.Text

/-- each name behind what it shares with the one before -/
def letterNames : List String := [
  ".20aSPACEaEXCLAMATION MARKaQUOTATION MARKaNUMBER SIGNaDOLLAR SIGNaPERCENT SIGNaAMPERSAND",
  "aAPOSTROPHEaLEFT PARENTHESISaRIGHT PARENTHESISaASTERISKaPLUS SIGNaCOMMAaHYPHEN-MINUSaFULL STOP",
  "aSOLIDUSaDIGIT ZERObONEbTWObTHREEbFOURbFIVEbSIXbSEVENbEIGHTbNINEaCOLONaSEMICOLON",
  "aLESS-THAN SIGNaEQUALS SIGNaGREATER-THAN SIGNaQUESTION MARKaCOMMERCIAL AT",
  "aLATIN CAPITAL LETTER AdBdCdDdEdFdGdHdIdJdKdLdMdNdOdPdQdRdSdTdUdVdWdXdYdZaLEFT SQUARE BRACKET",
  "aREVERSE SOLIDUSaRIGHT SQUARE BRACKETaCIRCUMFLEX ACCENTaLOW LINEaGRAVE ACCENT",
  "aLATIN SMALL LETTER AdBdCdDdEdFdGdHdIdJdKdLdMdNdOdPdQdRdSdTdUdVdWdXdYdZaLEFT CURLY BRACKET",
  "aVERTICAL LINEaRIGHT CURLY BRACKETaTILDE.A0aNO-BREAK SPACEaINVERTED EXCLAMATION MARKaCENT SIGN",
  "aPOUND SIGNaCURRENCY SIGNaYEN SIGNaBROKEN BARaSECTION SIGNaDIAERESISaCOPYRIGHT SIGN",
  "aFEMININE ORDINAL INDICATORaLEFT-POINTING DOUBLE ANGLE QUOTATION MARKaNOT SIGNaSOFT HYPHEN",
  "aREGISTERED SIGNaMACRONaDEGREE SIGNaPLUS-MINUS SIGNaSUPERSCRIPT TWObTHREEaACUTE ACCENT",
  "aMICRO SIGNaPILCROW SIGNaMIDDLE DOTaCEDILLAaSUPERSCRIPT ONEaMASCULINE ORDINAL INDICATOR",
  "aRIGHT-POINTING DOUBLE ANGLE QUOTATION MARKaVULGAR FRACTION ONE QUARTERdHALFcTHREE QUARTERS",
  "aINVERTED QUESTION MARKaLATIN CAPITAL LETTER A WITH GRAVEfACUTEfCIRCUMFLEXfTILDEfDIAERESIS",
  "fRING ABOVEdAEdC WITH CEDILLAdE WITH GRAVEfACUTEfCIRCUMFLEXfDIAERESISdI WITH GRAVEfACUTE",
  "fCIRCUMFLEXfDIAERESISdETHdN WITH TILDEdO WITH GRAVEfACUTEfCIRCUMFLEXfTILDEfDIAERESIS",
  "aMULTIPLICATION SIGNaLATIN CAPITAL LETTER O WITH STROKEdU WITH GRAVEfACUTEfCIRCUMFLEX",
  "fDIAERESISdY WITH ACUTEdTHORNbSMALL LETTER SHARP SdA WITH GRAVEfACUTEfCIRCUMFLEXfTILDE",
  "fDIAERESISfRING ABOVEdAEdC WITH CEDILLAdE WITH GRAVEfACUTEfCIRCUMFLEXfDIAERESISdI WITH GRAVE",
  "fACUTEfCIRCUMFLEXfDIAERESISdETHdN WITH TILDEdO WITH GRAVEfACUTEfCIRCUMFLEXfTILDEfDIAERESIS",
  "aDIVISION SIGNaLATIN SMALL LETTER O WITH STROKEdU WITH GRAVEfACUTEfCIRCUMFLEXfDIAERESIS",
  "dY WITH ACUTEdTHORNdY WITH DIAERESISbCAPITAL LETTER A WITH MACRONbSMALL LETTER A WITH MACRON",
  "bCAPITAL LETTER A WITH BREVEbSMALL LETTER A WITH BREVEbCAPITAL LETTER A WITH OGONEK",
  "bSMALL LETTER A WITH OGONEKbCAPITAL LETTER C WITH ACUTEbSMALL LETTER C WITH ACUTE",
  "bCAPITAL LETTER C WITH CIRCUMFLEXbSMALL LETTER C WITH CIRCUMFLEX",
  "bCAPITAL LETTER C WITH DOT ABOVEbSMALL LETTER C WITH DOT ABOVEbCAPITAL LETTER C WITH CARON",
  "bSMALL LETTER C WITH CARONbCAPITAL LETTER D WITH CARONbSMALL LETTER D WITH CARON",
  "bCAPITAL LETTER D WITH STROKEbSMALL LETTER D WITH STROKEbCAPITAL LETTER E WITH MACRON",
  "bSMALL LETTER E WITH MACRONbCAPITAL LETTER E WITH BREVEbSMALL LETTER E WITH BREVE",
  "bCAPITAL LETTER E WITH DOT ABOVEbSMALL LETTER E WITH DOT ABOVEbCAPITAL LETTER E WITH OGONEK",
  "bSMALL LETTER E WITH OGONEKbCAPITAL LETTER E WITH CARONbSMALL LETTER E WITH CARON",
  "bCAPITAL LETTER G WITH CIRCUMFLEXbSMALL LETTER G WITH CIRCUMFLEXbCAPITAL LETTER G WITH BREVE",
  "bSMALL LETTER G WITH BREVEbCAPITAL LETTER G WITH DOT ABOVEbSMALL LETTER G WITH DOT ABOVE",
  "bCAPITAL LETTER G WITH CEDILLAbSMALL LETTER G WITH CEDILLAbCAPITAL LETTER H WITH CIRCUMFLEX",
  "bSMALL LETTER H WITH CIRCUMFLEXbCAPITAL LETTER H WITH STROKEbSMALL LETTER H WITH STROKE",
  "bCAPITAL LETTER I WITH TILDEbSMALL LETTER I WITH TILDEbCAPITAL LETTER I WITH MACRON",
  "bSMALL LETTER I WITH MACRONbCAPITAL LETTER I WITH BREVEbSMALL LETTER I WITH BREVE",
  "bCAPITAL LETTER I WITH OGONEKbSMALL LETTER I WITH OGONEKbCAPITAL LETTER I WITH DOT ABOVE",
  "bSMALL LETTER DOTLESS IbCAPITAL LIGATURE IJbSMALL LIGATURE IJbCAPITAL LETTER J WITH CIRCUMFLEX",
  "bSMALL LETTER J WITH CIRCUMFLEXbCAPITAL LETTER K WITH CEDILLAbSMALL LETTER K WITH CEDILLAdKRA",
  "bCAPITAL LETTER L WITH ACUTEbSMALL LETTER L WITH ACUTEbCAPITAL LETTER L WITH CEDILLA",
  "bSMALL LETTER L WITH CEDILLAbCAPITAL LETTER L WITH CARONbSMALL LETTER L WITH CARON",
  "bCAPITAL LETTER L WITH MIDDLE DOTbSMALL LETTER L WITH MIDDLE DOTbCAPITAL LETTER L WITH STROKE",
  "bSMALL LETTER L WITH STROKEbCAPITAL LETTER N WITH ACUTEbSMALL LETTER N WITH ACUTE",
  "bCAPITAL LETTER N WITH CEDILLAbSMALL LETTER N WITH CEDILLAbCAPITAL LETTER N WITH CARON",
  "bSMALL LETTER N WITH CARONePRECEDED BY APOSTROPHEbCAPITAL LETTER ENGbSMALL LETTER ENG",
  "bCAPITAL LETTER O WITH MACRONbSMALL LETTER O WITH MACRONbCAPITAL LETTER O WITH BREVE",
  "bSMALL LETTER O WITH BREVEbCAPITAL LETTER O WITH DOUBLE ACUTEbSMALL LETTER O WITH DOUBLE ACUTE",
  "bCAPITAL LIGATURE OEbSMALL LIGATURE OEbCAPITAL LETTER R WITH ACUTEbSMALL LETTER R WITH ACUTE",
  "bCAPITAL LETTER R WITH CEDILLAbSMALL LETTER R WITH CEDILLAbCAPITAL LETTER R WITH CARON",
  "bSMALL LETTER R WITH CARONbCAPITAL LETTER S WITH ACUTEbSMALL LETTER S WITH ACUTE",
  "bCAPITAL LETTER S WITH CIRCUMFLEXbSMALL LETTER S WITH CIRCUMFLEXbCAPITAL LETTER S WITH CEDILLA",
  "bSMALL LETTER S WITH CEDILLAbCAPITAL LETTER S WITH CARONbSMALL LETTER S WITH CARON",
  "bCAPITAL LETTER T WITH CEDILLAbSMALL LETTER T WITH CEDILLAbCAPITAL LETTER T WITH CARON",
  "bSMALL LETTER T WITH CARONbCAPITAL LETTER T WITH STROKEbSMALL LETTER T WITH STROKE",
  "bCAPITAL LETTER U WITH TILDEbSMALL LETTER U WITH TILDEbCAPITAL LETTER U WITH MACRON",
  "bSMALL LETTER U WITH MACRONbCAPITAL LETTER U WITH BREVEbSMALL LETTER U WITH BREVE",
  "bCAPITAL LETTER U WITH RING ABOVEbSMALL LETTER U WITH RING ABOVE",
  "bCAPITAL LETTER U WITH DOUBLE ACUTEbSMALL LETTER U WITH DOUBLE ACUTE",
  "bCAPITAL LETTER U WITH OGONEKbSMALL LETTER U WITH OGONEKbCAPITAL LETTER W WITH CIRCUMFLEX",
  "bSMALL LETTER W WITH CIRCUMFLEXbCAPITAL LETTER Y WITH CIRCUMFLEX",
  "bSMALL LETTER Y WITH CIRCUMFLEXbCAPITAL LETTER Y WITH DIAERESISdZ WITH ACUTE",
  "bSMALL LETTER Z WITH ACUTEbCAPITAL LETTER Z WITH DOT ABOVEbSMALL LETTER Z WITH DOT ABOVE",
  "bCAPITAL LETTER Z WITH CARONbSMALL LETTER Z WITH CARONdLONG SdB WITH STROKE",
  "bCAPITAL LETTER B WITH HOOKfTOPBARbSMALL LETTER B WITH TOPBARbCAPITAL LETTER TONE SIX",
  "bSMALL LETTER TONE SIXbCAPITAL LETTER OPEN OdC WITH HOOKbSMALL LETTER C WITH HOOK",
  "bCAPITAL LETTER AFRICAN DdD WITH HOOKfTOPBARbSMALL LETTER D WITH TOPBARdTURNED DELTA",
  "bCAPITAL LETTER REVERSED EdSCHWAdOPEN EdF WITH HOOKbSMALL LETTER F WITH HOOK",
  "bCAPITAL LETTER G WITH HOOKdGAMMAbSMALL LETTER HVbCAPITAL LETTER IOTAdI WITH STROKE",
  "dK WITH HOOKbSMALL LETTER K WITH HOOKdL WITH BARdLAMBDA WITH STROKEbCAPITAL LETTER TURNED M",
  "dN WITH LEFT HOOKbSMALL LETTER N WITH LONG RIGHT LEGbCAPITAL LETTER O WITH MIDDLE TILDEfHORN",
  "bSMALL LETTER O WITH HORNbCAPITAL LETTER OIbSMALL LETTER OIbCAPITAL LETTER P WITH HOOK",
  "bSMALL LETTER P WITH HOOKbLETTER YRbCAPITAL LETTER TONE TWObSMALL LETTER TONE TWO",
  "bCAPITAL LETTER ESHbLETTER REVERSED ESH LOOPbSMALL LETTER T WITH PALATAL HOOK",
  "bCAPITAL LETTER T WITH HOOKbSMALL LETTER T WITH HOOKbCAPITAL LETTER T WITH RETROFLEX HOOK",
  "dU WITH HORNbSMALL LETTER U WITH HORNbCAPITAL LETTER UPSILONdV WITH HOOKdY WITH HOOK",
  "bSMALL LETTER Y WITH HOOKbCAPITAL LETTER Z WITH STROKEbSMALL LETTER Z WITH STROKE",
  "bCAPITAL LETTER EZHeREVERSEDbSMALL LETTER EZH REVERSEDeWITH TAILbLETTER TWO WITH STROKE",
  "bCAPITAL LETTER TONE FIVEbSMALL LETTER TONE FIVEbLETTER INVERTED GLOTTAL STOP WITH STROKEcWYNN",
  "cDENTAL CLICKcLATERAL CLICKcALVEOLAR CLICKcRETROFLEX CLICKbCAPITAL LETTER DZ WITH CARON",
  "dD WITH SMALL LETTER Z WITH CARONbSMALL LETTER DZ WITH CARONbCAPITAL LETTER LJ",
  "dL WITH SMALL LETTER JbSMALL LETTER LJbCAPITAL LETTER NJdN WITH SMALL LETTER JbSMALL LETTER NJ",
  "bCAPITAL LETTER A WITH CARONbSMALL LETTER A WITH CARONbCAPITAL LETTER I WITH CARON",
  "bSMALL LETTER I WITH CARONbCAPITAL LETTER O WITH CARONbSMALL LETTER O WITH CARON",
  "bCAPITAL LETTER U WITH CARONbSMALL LETTER U WITH CARON",
  "bCAPITAL LETTER U WITH DIAERESIS AND MACRONbSMALL LETTER U WITH DIAERESIS AND MACRON",
  "bCAPITAL LETTER U WITH DIAERESIS AND ACUTEbSMALL LETTER U WITH DIAERESIS AND ACUTE",
  "bCAPITAL LETTER U WITH DIAERESIS AND CARONbSMALL LETTER U WITH DIAERESIS AND CARON",
  "bCAPITAL LETTER U WITH DIAERESIS AND GRAVEbSMALL LETTER U WITH DIAERESIS AND GRAVEdTURNED E",
  "bCAPITAL LETTER A WITH DIAERESIS AND MACRONbSMALL LETTER A WITH DIAERESIS AND MACRON",
  "bCAPITAL LETTER A WITH DOT ABOVE AND MACRONbSMALL LETTER A WITH DOT ABOVE AND MACRON",
  "bCAPITAL LETTER AE WITH MACRONbSMALL LETTER AE WITH MACRONbCAPITAL LETTER G WITH STROKE",
  "bSMALL LETTER G WITH STROKEbCAPITAL LETTER G WITH CARONbSMALL LETTER G WITH CARON",
  "bCAPITAL LETTER K WITH CARONbSMALL LETTER K WITH CARONbCAPITAL LETTER O WITH OGONEK",
  "bSMALL LETTER O WITH OGONEKbCAPITAL LETTER O WITH OGONEK AND MACRON",
  "bSMALL LETTER O WITH OGONEK AND MACRONbCAPITAL LETTER EZH WITH CARON",
  "bSMALL LETTER EZH WITH CARONdJ WITH CARONbCAPITAL LETTER DZdD WITH SMALL LETTER Z",
  "bSMALL LETTER DZbCAPITAL LETTER G WITH ACUTEbSMALL LETTER G WITH ACUTEbCAPITAL LETTER HWAIR",
  "dWYNNdN WITH GRAVEbSMALL LETTER N WITH GRAVEbCAPITAL LETTER A WITH RING ABOVE AND ACUTE",
  "bSMALL LETTER A WITH RING ABOVE AND ACUTEbCAPITAL LETTER AE WITH ACUTE",
  "bSMALL LETTER AE WITH ACUTEbCAPITAL LETTER O WITH STROKE AND ACUTE",
  "bSMALL LETTER O WITH STROKE AND ACUTEbCAPITAL LETTER A WITH DOUBLE GRAVE",
  "bSMALL LETTER A WITH DOUBLE GRAVEbCAPITAL LETTER A WITH INVERTED BREVE",
  "bSMALL LETTER A WITH INVERTED BREVEbCAPITAL LETTER E WITH DOUBLE GRAVE",
  "bSMALL LETTER E WITH DOUBLE GRAVEbCAPITAL LETTER E WITH INVERTED BREVE",
  "bSMALL LETTER E WITH INVERTED BREVEbCAPITAL LETTER I WITH DOUBLE GRAVE",
  "bSMALL LETTER I WITH DOUBLE GRAVEbCAPITAL LETTER I WITH INVERTED BREVE",
  "bSMALL LETTER I WITH INVERTED BREVEbCAPITAL LETTER O WITH DOUBLE GRAVE",
  "bSMALL LETTER O WITH DOUBLE GRAVEbCAPITAL LETTER O WITH INVERTED BREVE",
  "bSMALL LETTER O WITH INVERTED BREVEbCAPITAL LETTER R WITH DOUBLE GRAVE",
  "bSMALL LETTER R WITH DOUBLE GRAVEbCAPITAL LETTER R WITH INVERTED BREVE",
  "bSMALL LETTER R WITH INVERTED BREVEbCAPITAL LETTER U WITH DOUBLE GRAVE",
  "bSMALL LETTER U WITH DOUBLE GRAVEbCAPITAL LETTER U WITH INVERTED BREVE",
  "bSMALL LETTER U WITH INVERTED BREVEbCAPITAL LETTER S WITH COMMA BELOW",
  "bSMALL LETTER S WITH COMMA BELOWbCAPITAL LETTER T WITH COMMA BELOW",
  "bSMALL LETTER T WITH COMMA BELOWbCAPITAL LETTER YOGHbSMALL LETTER YOGH",
  "bCAPITAL LETTER H WITH CARONbSMALL LETTER H WITH CARONbCAPITAL LETTER N WITH LONG RIGHT LEG",
  "bSMALL LETTER D WITH CURLbCAPITAL LETTER OUbSMALL LETTER OUbCAPITAL LETTER Z WITH HOOK",
  "bSMALL LETTER Z WITH HOOKbCAPITAL LETTER A WITH DOT ABOVEbSMALL LETTER A WITH DOT ABOVE",
  "bCAPITAL LETTER E WITH CEDILLAbSMALL LETTER E WITH CEDILLA",
  "bCAPITAL LETTER O WITH DIAERESIS AND MACRONbSMALL LETTER O WITH DIAERESIS AND MACRON",
  "bCAPITAL LETTER O WITH TILDE AND MACRONbSMALL LETTER O WITH TILDE AND MACRON",
  "bCAPITAL LETTER O WITH DOT ABOVEbSMALL LETTER O WITH DOT ABOVE",
  "bCAPITAL LETTER O WITH DOT ABOVE AND MACRONbSMALL LETTER O WITH DOT ABOVE AND MACRON",
  "bCAPITAL LETTER Y WITH MACRONbSMALL LETTER Y WITH MACRONdL WITH CURLdN WITH CURLdT WITH CURL",
  "dDOTLESS JdDB DIGRAPHdQP DIGRAPHbCAPITAL LETTER A WITH STROKEdC WITH STROKE",
  "bSMALL LETTER C WITH STROKEbCAPITAL LETTER L WITH BARdT WITH DIAGONAL STROKE",
  "bSMALL LETTER S WITH SWASH TAILdZ WITH SWASH TAILbCAPITAL LETTER GLOTTAL STOP",
  "bSMALL LETTER GLOTTAL STOPbCAPITAL LETTER B WITH STROKEdU BARdTURNED VdE WITH STROKE",
  "bSMALL LETTER E WITH STROKEbCAPITAL LETTER J WITH STROKEbSMALL LETTER J WITH STROKE",
  "bCAPITAL LETTER SMALL Q WITH HOOK TAILbSMALL LETTER Q WITH HOOK TAIL",
  "bCAPITAL LETTER R WITH STROKEbSMALL LETTER R WITH STROKEbCAPITAL LETTER Y WITH STROKE",
  "bSMALL LETTER Y WITH STROKEdTURNED AdALPHAdTURNED ALPHAdB WITH HOOKdOPEN OdC WITH CURL",
  "dD WITH TAILfHOOKdREVERSED EdSCHWAeWITH HOOKdOPEN EdREVERSED OPEN EgWITH HOOK",
  "dCLOSED REVERSED OPEN EdDOTLESS J WITH STROKEdG WITH HOOKdSCRIPT GbLETTER SMALL CAPITAL G",
  "bSMALL LETTER GAMMAdRAMS HORNdTURNED HdH WITH HOOKdHENG WITH HOOKdI WITH STROKEdIOTA",
  "bLETTER SMALL CAPITAL IbSMALL LETTER L WITH MIDDLE TILDEfBELTfRETROFLEX HOOKdLEZHdTURNED M",
  "fWITH LONG LEGdM WITH HOOKdN WITH LEFT HOOKfRETROFLEX HOOKbLETTER SMALL CAPITAL N",
  "bSMALL LETTER BARRED ObLETTER SMALL CAPITAL OEbSMALL LETTER CLOSED OMEGAdPHIdTURNED R",
  "fWITH LONG LEGgHOOKdR WITH LONG LEGfTAILfFISHHOOKdREVERSED R WITH FISHHOOK",
  "bLETTER SMALL CAPITAL ReINVERTED RbSMALL LETTER S WITH HOOKdESHdDOTLESS J WITH STROKE AND HOOK",
  "dSQUAT REVERSED ESHdESH WITH CURLdTURNED TdT WITH RETROFLEX HOOKdU BARdUPSILONdV WITH HOOK",
  "dTURNED VeWeYbLETTER SMALL CAPITAL YbSMALL LETTER Z WITH RETROFLEX HOOKfCURLdEZHeWITH CURL",
  "bLETTER GLOTTAL STOPcPHARYNGEAL VOICED FRICATIVEcINVERTED GLOTTAL STOPcSTRETCHED C",
  "cBILABIAL CLICKcSMALL CAPITAL BbSMALL LETTER CLOSED OPEN EbLETTER SMALL CAPITAL G WITH HOOKeH",
  "bSMALL LETTER J WITH CROSSED-TAILdTURNED KbLETTER SMALL CAPITAL LbSMALL LETTER Q WITH HOOK",
  "bLETTER GLOTTAL STOP WITH STROKEcREVERSED GLOTTAL STOP WITH STROKEbSMALL LETTER DZ DIGRAPH",
  "dDEZH DIGRAPHdDZ DIGRAPH WITH CURLdTS DIGRAPHdTESH DIGRAPHdTC DIGRAPH WITH CURLdFENG DIGRAPH",
  "dLS DIGRAPHdLZ DIGRAPHbLETTER BILABIAL PERCUSSIVEcBIDENTAL PERCUSSIVE",
  "bSMALL LETTER TURNED H WITH FISHHOOKhAND TAILaMODIFIER LETTER SMALL HeWITH HOOKdJdRdTURNED R",
  "fWITH HOOKdCAPITAL INVERTED RdWdYcPRIMEcDOUBLE PRIMEcTURNED COMMAcAPOSTROPHEcREVERSED COMMA",
  "cRIGHT HALF RINGcLEFT HALF RINGcGLOTTAL STOPcREVERSED GLOTTAL STOPcLEFT ARROWHEAD",
  "cRIGHT ARROWHEADcUP ARROWHEADcDOWN ARROWHEADcCIRCUMFLEX ACCENTaCARON",
  "aMODIFIER LETTER VERTICAL LINEcMACRONcACUTE ACCENTcGRAVE ACCENTcLOW VERTICAL LINEdMACRON",
  "dGRAVE ACCENTdACUTE ACCENTcTRIANGULAR COLONcHALF TRIANGULAR COLONcCENTRED RIGHT HALF RING",
  "dLEFT HALF RINGcUP TACKcDOWN TACKcPLUS SIGNcMINUS SIGNaBREVEaDOT ABOVEaRING ABOVEaOGONEK",
  "aSMALL TILDEaDOUBLE ACUTE ACCENTaMODIFIER LETTER RHOTIC HOOKcCROSS ACCENTcSMALL GAMMAdLdSdX",
  "dREVERSED GLOTTAL STOPcEXTRA-HIGH TONE BARcHIGH TONE BARcMID TONE BARcLOW TONE BAR",
  "cEXTRA-LOW TONE BARcYIN DEPARTING TONE MARKcYANG DEPARTING TONE MARKcVOICINGcUNASPIRATED",
  "cDOUBLE APOSTROPHEcLOW DOWN ARROWHEADdUP ARROWHEADdLEFT ARROWHEADdRIGHT ARROWHEADdRING",
  "cMIDDLE GRAVE ACCENTdDOUBLE GRAVE ACCENTeACUTE ACCENTcLOW TILDEcRAISED COLONcBEGIN HIGH TONE",
  "cEND HIGH TONEcBEGIN LOW TONEcEND LOW TONEcSHELFcOPEN SHELFcLOW LEFT ARROW",
  "aCOMBINING GRAVE ACCENTbACUTE ACCENTbCIRCUMFLEX ACCENTbTILDEbMACRONbOVERLINEbBREVEbDOT ABOVE",
  "bDIAERESISbHOOK ABOVEbRING ABOVEbDOUBLE ACUTE ACCENTbCARONbVERTICAL LINE ABOVE",
  "bDOUBLE VERTICAL LINE ABOVEcGRAVE ACCENTbCANDRABINDUbINVERTED BREVEbTURNED COMMA ABOVE",
  "bCOMMA ABOVEbREVERSED COMMA ABOVEbCOMMA ABOVE RIGHTbGRAVE ACCENT BELOWbACUTE ACCENT BELOW",
  "bLEFT TACK BELOWbRIGHT TACK BELOWbLEFT ANGLE ABOVEbHORNbLEFT HALF RING BELOWbUP TACK BELOW",
  "bDOWN TACK BELOWbPLUS SIGN BELOWbMINUS SIGN BELOWbPALATALIZED HOOK BELOWbRETROFLEX HOOK BELOW",
  "bDOT BELOWbDIAERESIS BELOWbRING BELOWbCOMMA BELOWbCEDILLAbOGONEKbVERTICAL LINE BELOW",
  "bBRIDGE BELOWbINVERTED DOUBLE ARCH BELOWbCARON BELOWbCIRCUMFLEX ACCENT BELOWbBREVE BELOW",
  "bINVERTED BREVE BELOWbTILDE BELOWbMACRON BELOWbLOW LINEbDOUBLE LOW LINEbTILDE OVERLAY",
  "bSHORT STROKE OVERLAYbLONG STROKE OVERLAYbSHORT SOLIDUS OVERLAYbLONG SOLIDUS OVERLAY",
  "bRIGHT HALF RING BELOWbINVERTED BRIDGE BELOWbSQUARE BELOWbSEAGULL BELOWbX ABOVEbVERTICAL TILDE",
  "bDOUBLE OVERLINEbGRAVE TONE MARKbACUTE TONE MARKbGREEK PERISPOMENIcKORONIScDIALYTIKA TONOS",
  "cYPOGEGRAMMENIbBRIDGE ABOVEbEQUALS SIGN BELOWbDOUBLE VERTICAL LINE BELOWbLEFT ANGLE BELOW",
  "bNOT TILDE ABOVEbHOMOTHETIC ABOVEbALMOST EQUAL TO ABOVEbLEFT RIGHT ARROW BELOW",
  "bUPWARDS ARROW BELOWbGRAPHEME JOINERbRIGHT ARROWHEAD ABOVEbLEFT HALF RING ABOVEbFERMATA",
  "bX BELOWbLEFT ARROWHEAD BELOWbRIGHT ARROWHEAD BELOWdAND UP ARROWHEAD BELOWcHALF RING ABOVE",
  "bDOT ABOVE RIGHTbASTERISK BELOWbDOUBLE RING BELOWbZIGZAG ABOVEbDOUBLE BREVE BELOWdcMACRON",
  "dBELOWcTILDEcINVERTED BREVEcRIGHTWARDS ARROW BELOWbLATIN SMALL LETTER AeEeIeOeUeCeDeHeMeReTeV",
  "eXaGREEK CAPITAL LETTER HETAbSMALL LETTER HETAbCAPITAL LETTER ARCHAIC SAMPI",
  "bSMALL LETTER ARCHAIC SAMPIbNUMERAL SIGNbLOWER NUMERAL SIGNbCAPITAL LETTER PAMPHYLIAN DIGAMMA",
  "bSMALL LETTER PAMPHYLIAN DIGAMMA.37AbYPOGEGRAMMENIbSMALL REVERSED LUNATE SIGMA SYMBOL",
  "cDOTTED LUNATE SIGMA SYMBOLcREVERSED DOTTED LUNATE SIGMA SYMBOLbQUESTION MARK",
  "bCAPITAL LETTER YOT.384bTONOSbDIALYTIKA TONOSbCAPITAL LETTER ALPHA WITH TONOSbANO TELEIA",
  "bCAPITAL LETTER EPSILON WITH TONOSdETA WITH TONOSdIOTA WITH TONOS.38CdOMICRON WITH TONOS",
  ".38EdUPSILON WITH TONOSdOMEGA WITH TONOSbSMALL LETTER IOTA WITH DIALYTIKA AND TONOS",
  "bCAPITAL LETTER ALPHAdBETAdGAMMAdDELTAdEPSILONdZETAdETAdTHETAdIOTAdKAPPAdLAMDAdMUdNUdXI",
  "dOMICRONdPIdRHO.3A3dSIGMAdTAUdUPSILONdPHIdCHIdPSIdOMEGAdIOTA WITH DIALYTIKA",
  "dUPSILON WITH DIALYTIKAbSMALL LETTER ALPHA WITH TONOSdEPSILON WITH TONOSdETA WITH TONOS",
  "dIOTA WITH TONOSdUPSILON WITH DIALYTIKA AND TONOSdALPHAdBETAdGAMMAdDELTAdEPSILONdZETAdETA",
  "dTHETAdIOTAdKAPPAdLAMDAdMUdNUdXIdOMICRONdPIdRHOdFINAL SIGMAdSIGMAdTAUdUPSILONdPHIdCHIdPSI",
  "dOMEGAdIOTA WITH DIALYTIKAdUPSILON WITH DIALYTIKAdOMICRON WITH TONOSdUPSILON WITH TONOS",
  "dOMEGA WITH TONOSbCAPITAL KAI SYMBOLbBETA SYMBOLbTHETA SYMBOLbUPSILON WITH HOOK SYMBOL",
  "dACUTE AND HOOK SYMBOLdDIAERESIS AND HOOK SYMBOLbPHI SYMBOLbPI SYMBOLbKAI SYMBOL",
  "bLETTER ARCHAIC KOPPAbSMALL LETTER ARCHAIC KOPPAbLETTER STIGMAbSMALL LETTER STIGMA",
  "bLETTER DIGAMMAbSMALL LETTER DIGAMMAbLETTER KOPPAbSMALL LETTER KOPPAbLETTER SAMPI",
  "bSMALL LETTER SAMPIaCOPTIC CAPITAL LETTER SHEIbSMALL LETTER SHEIbCAPITAL LETTER FEI",
  "bSMALL LETTER FEIbCAPITAL LETTER KHEIbSMALL LETTER KHEIbCAPITAL LETTER HORIbSMALL LETTER HORI",
  "bCAPITAL LETTER GANGIAbSMALL LETTER GANGIAbCAPITAL LETTER SHIMAbSMALL LETTER SHIMA",
  "bCAPITAL LETTER DEIbSMALL LETTER DEIaGREEK KAPPA SYMBOLbRHO SYMBOLbLUNATE SIGMA SYMBOL",
  "bLETTER YOTbCAPITAL THETA SYMBOLbLUNATE EPSILON SYMBOLbREVERSED LUNATE EPSILON SYMBOL",
  "bCAPITAL LETTER SHObSMALL LETTER SHObCAPITAL LUNATE SIGMA SYMBOLcLETTER SANbSMALL LETTER SAN",
  "bRHO WITH STROKE SYMBOLbCAPITAL REVERSED LUNATE SIGMA SYMBOLcDOTTED LUNATE SIGMA SYMBOL",
  "cREVERSED DOTTED LUNATE SIGMA SYMBOLaCYRILLIC CAPITAL LETTER IE WITH GRAVEdIOdDJEdGJE",
  "dUKRAINIAN IEdDZEdBYELORUSSIAN-UKRAINIAN IdYIdJEdLJEdNJEdTSHEdKJEdI WITH GRAVEdSHORT UdDZHEdA",
  "dBEdVEdGHEdDEdIEdZHEdZEdIdSHORT IdKAdELdEMdENdOdPEdERdESdTEdUdEFdHAdTSEdCHEdSHAdSHCHA",
  "dHARD SIGNdYERUdSOFT SIGNdEdYUdYAbSMALL LETTER AdBEdVEdGHEdDEdIEdZHEdZEdIdSHORT IdKAdELdEMdEN",
  "dOdPEdERdESdTEdUdEFdHAdTSEdCHEdSHAdSHCHAdHARD SIGNdYERUdSOFT SIGNdEdYUdYAdIE WITH GRAVEdIOdDJE",
  "dGJEdUKRAINIAN IEdDZEdBYELORUSSIAN-UKRAINIAN IdYIdJEdLJEdNJEdTSHEdKJEdI WITH GRAVEdSHORT U",
  "dDZHEbCAPITAL LETTER OMEGAbSMALL LETTER OMEGAbCAPITAL LETTER YATbSMALL LETTER YAT",
  "bCAPITAL LETTER IOTIFIED EbSMALL LETTER IOTIFIED EbCAPITAL LETTER LITTLE YUS",
  "bSMALL LETTER LITTLE YUSbCAPITAL LETTER IOTIFIED LITTLE YUSbSMALL LETTER IOTIFIED LITTLE YUS",
  "bCAPITAL LETTER BIG YUSbSMALL LETTER BIG YUSbCAPITAL LETTER IOTIFIED BIG YUS",
  "bSMALL LETTER IOTIFIED BIG YUSbCAPITAL LETTER KSIbSMALL LETTER KSIbCAPITAL LETTER PSI",
  "bSMALL LETTER PSIbCAPITAL LETTER FITAbSMALL LETTER FITAbCAPITAL LETTER IZHITSA",
  "bSMALL LETTER IZHITSAbCAPITAL LETTER IZHITSA WITH DOUBLE GRAVE ACCENT",
  "bSMALL LETTER IZHITSA WITH DOUBLE GRAVE ACCENTbCAPITAL LETTER UKbSMALL LETTER UK",
  "bCAPITAL LETTER ROUND OMEGAbSMALL LETTER ROUND OMEGAbCAPITAL LETTER OMEGA WITH TITLO",
  "bSMALL LETTER OMEGA WITH TITLObCAPITAL LETTER OTbSMALL LETTER OTbCAPITAL LETTER KOPPA",
  "bSMALL LETTER KOPPAbTHOUSANDS SIGNaCOMBINING CYRILLIC TITLOcPALATALIZATIONcDASIA PNEUMATA",
  "cPSILI PNEUMATAcPOKRYTIEcHUNDRED THOUSANDS SIGNcMILLIONS SIGN",
  "aCYRILLIC CAPITAL LETTER SHORT I WITH TAILbSMALL LETTER SHORT I WITH TAIL",
  "bCAPITAL LETTER SEMISOFT SIGNbSMALL LETTER SEMISOFT SIGNbCAPITAL LETTER ER WITH TICK",
  "bSMALL LETTER ER WITH TICKbCAPITAL LETTER GHE WITH UPTURNbSMALL LETTER GHE WITH UPTURN",
  "bCAPITAL LETTER GHE WITH STROKEbSMALL LETTER GHE WITH STROKE",
  "bCAPITAL LETTER GHE WITH MIDDLE HOOKbSMALL LETTER GHE WITH MIDDLE HOOK",
  "bCAPITAL LETTER ZHE WITH DESCENDERbSMALL LETTER ZHE WITH DESCENDER",
  "bCAPITAL LETTER ZE WITH DESCENDERbSMALL LETTER ZE WITH DESCENDER",
  "bCAPITAL LETTER KA WITH DESCENDERbSMALL LETTER KA WITH DESCENDER",
  "bCAPITAL LETTER KA WITH VERTICAL STROKEbSMALL LETTER KA WITH VERTICAL STROKE",
  "bCAPITAL LETTER KA WITH STROKEbSMALL LETTER KA WITH STROKEbCAPITAL LETTER BASHKIR KA",
  "bSMALL LETTER BASHKIR KAbCAPITAL LETTER EN WITH DESCENDERbSMALL LETTER EN WITH DESCENDER",
  "bCAPITAL LIGATURE EN GHEbSMALL LIGATURE EN GHEbCAPITAL LETTER PE WITH MIDDLE HOOK",
  "bSMALL LETTER PE WITH MIDDLE HOOKbCAPITAL LETTER ABKHASIAN HAbSMALL LETTER ABKHASIAN HA",
  "bCAPITAL LETTER ES WITH DESCENDERbSMALL LETTER ES WITH DESCENDER",
  "bCAPITAL LETTER TE WITH DESCENDERbSMALL LETTER TE WITH DESCENDERbCAPITAL LETTER STRAIGHT U",
  "bSMALL LETTER STRAIGHT UbCAPITAL LETTER STRAIGHT U WITH STROKE",
  "bSMALL LETTER STRAIGHT U WITH STROKEbCAPITAL LETTER HA WITH DESCENDER",
  "bSMALL LETTER HA WITH DESCENDERbCAPITAL LIGATURE TE TSEbSMALL LIGATURE TE TSE",
  "bCAPITAL LETTER CHE WITH DESCENDERbSMALL LETTER CHE WITH DESCENDER",
  "bCAPITAL LETTER CHE WITH VERTICAL STROKEbSMALL LETTER CHE WITH VERTICAL STROKE",
  "bCAPITAL LETTER SHHAbSMALL LETTER SHHAbCAPITAL LETTER ABKHASIAN CHEbSMALL LETTER ABKHASIAN CHE",
  "bCAPITAL LETTER ABKHASIAN CHE WITH DESCENDERbSMALL LETTER ABKHASIAN CHE WITH DESCENDER",
  "bLETTER PALOCHKAbCAPITAL LETTER ZHE WITH BREVEbSMALL LETTER ZHE WITH BREVE",
  "bCAPITAL LETTER KA WITH HOOKbSMALL LETTER KA WITH HOOKbCAPITAL LETTER EL WITH TAIL",
  "bSMALL LETTER EL WITH TAILbCAPITAL LETTER EN WITH HOOKbSMALL LETTER EN WITH HOOK",
  "bCAPITAL LETTER EN WITH TAILbSMALL LETTER EN WITH TAILbCAPITAL LETTER KHAKASSIAN CHE",
  "bSMALL LETTER KHAKASSIAN CHEbCAPITAL LETTER EM WITH TAILbSMALL LETTER EM WITH TAILdPALOCHKA",
  "bCAPITAL LETTER A WITH BREVEbSMALL LETTER A WITH BREVEbCAPITAL LETTER A WITH DIAERESIS",
  "bSMALL LETTER A WITH DIAERESISbCAPITAL LIGATURE A IEbSMALL LIGATURE A IE",
  "bCAPITAL LETTER IE WITH BREVEbSMALL LETTER IE WITH BREVEbCAPITAL LETTER SCHWA",
  "bSMALL LETTER SCHWAbCAPITAL LETTER SCHWA WITH DIAERESISbSMALL LETTER SCHWA WITH DIAERESIS",
  "bCAPITAL LETTER ZHE WITH DIAERESISbSMALL LETTER ZHE WITH DIAERESIS",
  "bCAPITAL LETTER ZE WITH DIAERESISbSMALL LETTER ZE WITH DIAERESISbCAPITAL LETTER ABKHASIAN DZE",
  "bSMALL LETTER ABKHASIAN DZEbCAPITAL LETTER I WITH MACRONbSMALL LETTER I WITH MACRON",
  "bCAPITAL LETTER I WITH DIAERESISbSMALL LETTER I WITH DIAERESISbCAPITAL LETTER O WITH DIAERESIS",
  "bSMALL LETTER O WITH DIAERESISbCAPITAL LETTER BARRED ObSMALL LETTER BARRED O",
  "bCAPITAL LETTER BARRED O WITH DIAERESISbSMALL LETTER BARRED O WITH DIAERESIS",
  "bCAPITAL LETTER E WITH DIAERESISbSMALL LETTER E WITH DIAERESISbCAPITAL LETTER U WITH MACRON",
  "bSMALL LETTER U WITH MACRONbCAPITAL LETTER U WITH DIAERESISbSMALL LETTER U WITH DIAERESIS",
  "bCAPITAL LETTER U WITH DOUBLE ACUTEbSMALL LETTER U WITH DOUBLE ACUTE",
  "bCAPITAL LETTER CHE WITH DIAERESISbSMALL LETTER CHE WITH DIAERESIS",
  "bCAPITAL LETTER GHE WITH DESCENDERbSMALL LETTER GHE WITH DESCENDER",
  "bCAPITAL LETTER YERU WITH DIAERESISbSMALL LETTER YERU WITH DIAERESIS",
  "bCAPITAL LETTER GHE WITH STROKE AND HOOKbSMALL LETTER GHE WITH STROKE AND HOOK",
  "bCAPITAL LETTER HA WITH HOOKbSMALL LETTER HA WITH HOOKbCAPITAL LETTER HA WITH STROKE",
  "bSMALL LETTER HA WITH STROKEbCAPITAL LETTER KOMI DEbSMALL LETTER KOMI DE",
  "bCAPITAL LETTER KOMI DJEbSMALL LETTER KOMI DJEbCAPITAL LETTER KOMI ZJEbSMALL LETTER KOMI ZJE",
  "bCAPITAL LETTER KOMI DZJEbSMALL LETTER KOMI DZJEbCAPITAL LETTER KOMI LJEbSMALL LETTER KOMI LJE",
  "bCAPITAL LETTER KOMI NJEbSMALL LETTER KOMI NJEbCAPITAL LETTER KOMI SJEbSMALL LETTER KOMI SJE",
  "bCAPITAL LETTER KOMI TJEbSMALL LETTER KOMI TJEbCAPITAL LETTER REVERSED ZE",
  "bSMALL LETTER REVERSED ZEbCAPITAL LETTER EL WITH HOOKbSMALL LETTER EL WITH HOOK",
  "bCAPITAL LETTER LHAbSMALL LETTER LHAbCAPITAL LETTER RHAbSMALL LETTER RHAbCAPITAL LETTER YAE",
  "bSMALL LETTER YAEbCAPITAL LETTER QAbSMALL LETTER QAbCAPITAL LETTER WEbSMALL LETTER WE",
  "bCAPITAL LETTER ALEUT KAbSMALL LETTER ALEUT KAbCAPITAL LETTER EL WITH MIDDLE HOOK",
  "bSMALL LETTER EL WITH MIDDLE HOOKbCAPITAL LETTER EN WITH MIDDLE HOOK",
  "bSMALL LETTER EN WITH MIDDLE HOOKbCAPITAL LETTER PE WITH DESCENDER",
  "bSMALL LETTER PE WITH DESCENDERbCAPITAL LETTER SHHA WITH DESCENDER",
  "bSMALL LETTER SHHA WITH DESCENDERbCAPITAL LETTER EN WITH LEFT HOOK",
  "bSMALL LETTER EN WITH LEFT HOOKbCAPITAL LETTER DZZHEbSMALL LETTER DZZHEbCAPITAL LETTER DCHE",
  "bSMALL LETTER DCHEbCAPITAL LETTER EL WITH DESCENDERbSMALL LETTER EL WITH DESCENDER",
  ".531aARMENIAN CAPITAL LETTER AYBdBENdGIMdDAdECHdZAdEHdETdTOdZHEdINIdLIWNdXEHdCAdKENdHOdJAdGHAD",
  "dCHEHdMENdYIdNOWdSHAdVOdCHAdPEHdJHEHdRAdSEHdVEWdTIWNdREHdCOdYIWNdPIWRdKEHdOHdFEH",
  ".559bMODIFIER LETTER LEFT HALF RINGbAPOSTROPHEbEMPHASIS MARKbEXCLAMATION MARKbCOMMA",
  "bQUESTION MARKbABBREVIATION MARKbSMALL LETTER TURNED AYBdAYBdBENdGIMdDAdECHdZAdEHdETdTOdZHE",
  "dINIdLIWNdXEHdCAdKENdHOdJAdGHADdCHEHdMENdYIdNOWdSHAdVOdCHAdPEHdJHEHdRAdSEHdVEWdTIWNdREHdCO",
  "dYIWNdPIWRdKEHdOHdFEHcLIGATURE ECH YIWNcLETTER YI WITH STROKEbFULL STOPbHYPHEN",
  ".58DaRIGHT-FACING ARMENIAN ETERNITY SIGNaLEFT-FACING ARMENIAN ETERNITY SIGNaARMENIAN DRAM SIGN",
  ".591aHEBREW ACCENT ETNAHTAcSEGOLcSHALSHELETcZAQEF QATANdGADOLcTIPEHAcREVIAcZARQAcPASHTAcYETIV",
  "cTEVIRcGERESHdMUQDAMcGERSHAYIMcQARNEY PARAcTELISHA GEDOLAcPAZERcATNAH HAFUKHcMUNAHcMAHAPAKH",
  "cMERKHAdKEFULAcDARGAcQADMAcTELISHA QETANAcYERAH BEN YOMOcOLEcILUYcDEHIcZINOR",
  "bMARK MASORA CIRCLEbPOINT SHEVAcHATAF SEGOLdPATAHdQAMATScHIRIQcTSEREcSEGOLcPATAHcQAMATScHOLAM",
  "dHASER FOR VAVcQUBUTScDAGESH OR MAPIQcMETEGbPUNCTUATION MAQAFbPOINT RAFEbPUNCTUATION PASEQ",
  "bPOINT SHIN DOTcSIN DOTbPUNCTUATION SOF PASUQbMARK UPPER DOTcLOWER DOTbPUNCTUATION NUN HAFUKHA",
  "bPOINT QAMATS QATAN.5D0bLETTER ALEFcBETcGIMELcDALETcHEcVAVcZAYINcHETcTETcYODcFINAL KAFcKAF",
  "cLAMEDcFINAL MEMcMEMcFINAL NUNcNUNcSAMEKHcAYINcFINAL PEcPEcFINAL TSADIcTSADIcQOFcRESHcSHINcTAV",
  ".5EFbYOD TRIANGLEbLIGATURE YIDDISH DOUBLE VAVdVAV YODdDOUBLE YODbPUNCTUATION GERESHcGERSHAYIM",
  ".600aARABIC NUMBER SIGNbSIGN SANAHbFOOTNOTE MARKERbSIGN SAFHAcSAMVATbNUMBER MARK ABOVE",
  "aARABIC-INDIC CUBE ROOTbFOURTH ROOTaARABIC RAYaARABIC-INDIC PER MILLE SIGNcTEN THOUSAND SIGN",
  "aAFGHANI SIGNaARABIC COMMAbDATE SEPARATORbPOETIC VERSE SIGNbSIGN MISRA",
  "cSALLALLAHOU ALAYHE WASSALLAMcALAYHE ASSALLAMcRAHMATULLAH ALAYHEcRADI ALLAHOU ANHUcTAKHALLUS",
  "bSMALL HIGH TAHdLIGATURE ALEF WITH LAM WITH YEHdZAINcFATHAcDAMMAcKASRAbSEMICOLONbLETTER MARK",
  "bEND OF TEXT MARKbTRIPLE DOT PUNCTUATION MARKbQUESTION MARKbLETTER KASHMIRI YEHcHAMZA",
  "cALEF WITH MADDA ABOVEeHAMZA ABOVEcWAW WITH HAMZA ABOVEcALEF WITH HAMZA BELOW",
  "cYEH WITH HAMZA ABOVEcALEFcBEHcTEH MARBUTAdcTHEHcJEEMcHAHcKHAHcDALcTHALcREHcZAINcSEENcSHEEN",
  "cSADcDADcTAHcZAHcAINcGHAINcKEHEH WITH TWO DOTS ABOVEeTHREE DOTS BELOW",
  "cFARSI YEH WITH INVERTED VfTWO DOTS ABOVEfTHREE DOTS ABOVEbTATWEELbLETTER FEHcQAFcKAFcLAMcMEEM",
  "cNOONcHEHcWAWcALEF MAKSURAcYEHbFATHATANbDAMMATANbKASRATANbFATHAbDAMMAbKASRAbSHADDAbSUKUN",
  "bMADDAH ABOVEbHAMZA ABOVEcBELOWbSUBSCRIPT ALEFbINVERTED DAMMAbMARK NOON GHUNNAbZWARAKAY",
  "bVOWEL SIGN SMALL V ABOVEdINVERTED SMALL V ABOVEdDOT BELOWbREVERSED DAMMAbFATHA WITH TWO DOTS",
  "bWAVY HAMZA BELOWaARABIC-INDIC DIGIT ZEROcONEcTWOcTHREEcFOURcFIVEcSIXcSEVENcEIGHTcNINE",
  "aARABIC PERCENT SIGNbDECIMAL SEPARATORbTHOUSANDS SEPARATORbFIVE POINTED STAR",
  "bLETTER DOTLESS BEHdQAFcSUPERSCRIPT ALEFcALEF WASLAdWITH WAVY HAMZA ABOVEgBELOWcHIGH HAMZA",
  "eALEFeWAWcU WITH HAMZA ABOVEcHIGH HAMZA YEHcTTEHcTTEHEHcBEEHcTEH WITH RING",
  "eTHREE DOTS ABOVE DOWNWARDScPEHcTEHEHcBEHEHcHAH WITH HAMZA ABOVEeTWO DOTS VERTICAL ABOVEcNYEH",
  "cDYEHcHAH WITH THREE DOTS ABOVEcTCHEHcTCHEHEHcDDALcDAL WITH RINGeDOT BELOWgAND SMALL TAHcDAHAL",
  "cDDAHALcDULcDAL WITH THREE DOTS ABOVE DOWNWARDSeFOUR DOTS ABOVEcRREHcREH WITH SMALL VeRING",
  "eDOT BELOWeSMALL V BELOWeDOT BELOW AND DOT ABOVEeTWO DOTS ABOVEcJEHcREH WITH FOUR DOTS ABOVE",
  "cSEEN WITH DOT BELOW AND DOT ABOVEeTHREE DOTS BELOWhAND THREE DOTS ABOVE",
  "cSAD WITH TWO DOTS BELOWeTHREE DOTS ABOVEcTAH WITH THREE DOTS ABOVEcAIN WITH THREE DOTS ABOVE",
  "cDOTLESS FEHcFEH WITH DOT MOVED BELOWfBELOWcVEHcFEH WITH THREE DOTS BELOWcPEHEH",
  "cQAF WITH DOT ABOVEeTHREE DOTS ABOVEcKEHEHcSWASH KAFcKAF WITH RINGeDOT ABOVEcNG",
  "cKAF WITH THREE DOTS BELOWcGAFdWITH RINGcNGOEHcGAF WITH TWO DOTS BELOWcGUEH",
  "cGAF WITH THREE DOTS ABOVEcLAM WITH SMALL VeDOT ABOVEeTHREE DOTS ABOVEgBELOW",
  "cNOON WITH DOT BELOWdGHUNNAcRNOONcNOON WITH RINGeTHREE DOTS ABOVEcHEH DOACHASHMEE",
  "cTCHEH WITH DOT ABOVEcHEH WITH YEH ABOVEdGOALeWITH HAMZA ABOVEcTEH MARBUTA GOALcWAW WITH RING",
  "cKIRGHIZ OEcOEcUcYUcKIRGHIZ YUcWAW WITH TWO DOTS ABOVEcVEcFARSI YEHcYEH WITH TAILeSMALL V",
  "cWAW WITH DOT ABOVEcEcYEH WITH THREE DOTS BELOWdBARREEeWITH HAMZA ABOVEbFULL STOPbLETTER AE",
  "bSMALL HIGH LIGATURE SAD WITH LAM WITH ALEF MAKSURAeQAF WITH LAM WITH ALEF MAKSURA",
  "dMEEM INITIAL FORMdLAM ALEFdJEEMdTHREE DOTSdSEENbEND OF AYAHbSTART OF RUB EL HIZB",
  "bSMALL HIGH ROUNDED ZEROdUPRIGHT RECTANGULAR ZEROdDOTLESS HEAD OF KHAHdMEEM ISOLATED FORM",
  "cLOW SEENcHIGH MADDAcWAWcYEHcHIGH YEHdNOONbPLACE OF SAJDAHbEMPTY CENTRE LOW STOPdHIGH STOP",
  "bROUNDED HIGH STOP WITH FILLED CENTREbSMALL LOW MEEMbLETTER DAL WITH INVERTED V",
  "cREH WITH INVERTED VaEXTENDED ARABIC-INDIC DIGIT ZEROdONEdTWOdTHREEdFOURdFIVEdSIXdSEVENdEIGHT",
  "dNINEaARABIC LETTER SHEEN WITH DOT BELOWcDAD WITH DOT BELOWcGHAIN WITH DOT BELOW",
  "bSIGN SINDHI AMPERSANDdPOSTPOSITION MENbLETTER HEH WITH INVERTED VaSYRIAC END OF PARAGRAPH",
  "bSUPRALINEAR FULL STOPbSUBLINEAR FULL STOPbSUPRALINEAR COLONbSUBLINEAR COLONbHORIZONTAL COLON",
  "bCOLON SKEWED LEFTdRIGHTbSUPRALINEAR COLON SKEWED LEFTbSUBLINEAR COLON SKEWED RIGHT",
  "bCONTRACTIONbHARKLEAN OBELUScMETOBELUScASTERISCUS.70FbABBREVIATION MARKbLETTER ALAPH",
  "cSUPERSCRIPT ALAPHcBETHcGAMALdGARSHUNIcDALATHcDOTLESS DALATH RISHcHEcWAWcZAINcHETHcTETH",
  "dGARSHUNIcYUDHdHEcKAPHcLAMADHcMIMcNUNcSEMKATHcFINAL SEMKATHcEcPEcREVERSED PEcSADHEcQAPHcRISH",
  "cSHINcTAWcPERSIAN BHETHdGHAMALdDHALATHbPTHAHA ABOVEcBELOWcDOTTEDbZQAPHA ABOVEcBELOWcDOTTED",
  "bRBASA ABOVEcBELOWbDOTTED ZLAMA HORIZONTALdANGULARbHBASA ABOVEcBELOWbHBASA-ESASA DOTTED",
  "bESASA ABOVEcBELOWbRWAHAbFEMININE DOTbQUSHSHAYAbRUKKAKHAbTWO VERTICAL DOTS ABOVEeBELOW",
  "bTHREE DOTS ABOVEdBELOWbOBLIQUE LINE ABOVEdBELOWbMUSICbBARREKH.74DbLETTER SOGDIAN ZHAINdKHAPH",
  "dFEaARABIC LETTER BEH WITH THREE DOTS HORIZONTALLY BELOWeDOT BELOW AND THREE DOTS ABOVE",
  "eTHREE DOTS POINTING UPWARDS BELOWjAND TWO DOTS ABOVEeTWO DOTS BELOW AND DOT ABOVE",
  "eINVERTED SMALL V BELOWeSMALL VcHAH WITH TWO DOTS ABOVEeTHREE DOTS POINTING UPWARDS BELOW",
  "cDAL WITH TWO DOTS VERTICALLY BELOW AND SMALL TAHeINVERTED SMALL V BELOWcREH WITH STROKE",
  "cSEEN WITH FOUR DOTS ABOVEcAIN WITH TWO DOTS ABOVEeTHREE DOTS POINTING DOWNWARDS ABOVE",
  "eTWO DOTS VERTICALLY ABOVEcFEH WITH TWO DOTS BELOWeTHREE DOTS POINTING UPWARDS BELOW",
  "cKEHEH WITH DOT ABOVEeTHREE DOTS ABOVEgPOINTING UPWARDS BELOWcMEEM WITH DOT ABOVEfBELOW",
  "cNOON WITH TWO DOTS BELOWeSMALL TAHfVcLAM WITH BARcREH WITH TWO DOTS VERTICALLY ABOVE",
  "eHAMZA ABOVEcSEEN WITH TWO DOTS VERTICALLY ABOVEcHAH WITH SMALL ARABIC LETTER TAH BELOW",
  "iAND TWO DOTScSEEN WITH SMALL ARABIC LETTER TAH AND TWO DOTS",
  "cREH WITH SMALL ARABIC LETTER TAH AND TWO DOTScHAH WITH SMALL ARABIC LETTER TAH ABOVE",
  "cALEF WITH EXTENDED ARABIC-INDIC DIGIT TWO ABOVEhTHREE ABOVE",
  "cFARSI YEH WITH EXTENDED ARABIC-INDIC DIGIT TWO ABOVEiTHREE ABOVEiFOUR BELOW",
  "cWAW WITH EXTENDED ARABIC-INDIC DIGIT TWO ABOVEhTHREE ABOVE",
  "cYEH BARREE WITH EXTENDED ARABIC-INDIC DIGIT TWO ABOVEiTHREE ABOVE",
  "cHAH WITH EXTENDED ARABIC-INDIC DIGIT FOUR BELOW",
  "cSEEN WITH EXTENDED ARABIC-INDIC DIGIT FOUR ABOVEeINVERTED VcKAF WITH TWO DOTS ABOVE",
  "aTHAANA LETTER HAAcSHAVIYANIcNOONUcRAAcBAAcLHAVIYANIcKAAFUcALIFUcVAAVUcMEEMUcFAAFUcDHAALUcTHAA",
  "cLAAMUcGAAFUcGNAVIYANIcSEENUcDAVIYANIcZAVIYANIcTAVIYANIcYAAcPAVIYANIcJAVIYANIcCHAVIYANIcTTAA",
  "cHHAAcKHAAcTHAALUcZAAcSHEENUcSAADHUcDAADHUcTOcZOcAINUcGHAINUcQAAFUcWAAVUbABAFILIbAABAAFILI",
  "bIBIFILIbEEBEEFILIbUBUFILIbOOBOOFILIbEBEFILIbEYBEYFILIbOBOFILIbOABOAFILIbSUKUNbLETTER NAA",
  ".7C0aNKO DIGIT ZEROcONEcTWOcTHREEcFOURcFIVEcSIXcSEVENcEIGHTcNINEbLETTER AcEEcIcEcUcOOcO",
  "cDAGBASINNAcNcBAcPAcTAcJAcCHAcDAcRAcRRAcSAcGBAcFAcKAcLAcNA WOLOSOcMAcNYAcNAcHAcWAcYA",
  "cNYA WOLOSOcJONA JAdCHAdRAbCOMBINING SHORT HIGH TONEdLOW TONEdRISING TONEcLONG DESCENDING TONE",
  "dHIGH TONEdLOW TONEdRISING TONEcNASALIZATION MARKcDOUBLE DOT ABOVEbHIGH TONE APOSTROPHE",
  "bLOW TONE APOSTROPHEbSYMBOL OO DENNENcGBAKURUNENbCOMMAbEXCLAMATION MARKbLAJANYALAN",
  ".7FDbDANTAYALANbDOROME SIGNbTAMAN SIGNaSAMARITAN LETTER ALAFcBITcGAMANcDALATcIYcBAAcZENcITcTIT",
  "cYUTcKAAFcLABATcMIMcNUNcSINGAATcINcFIcTSAADIYcQUFcRISHcSHANcTAAFbMARK INcIN-ALAFcOCCLUSION",
  "cDAGESHbMODIFIER LETTER EPENTHETIC YUTbMARK EPENTHETIC YUTbVOWEL SIGN LONG EdEdOVERLONG AA",
  "dLONG AAdAAdOVERLONG AdLONG AdAbMODIFIER LETTER SHORT AbVOWEL SIGN SHORT AdLONG UdU",
  "bMODIFIER LETTER IbVOWEL SIGN LONG IdIdOdSUKUNbMARK NEQUDAA.830bPUNCTUATION NEQUDAAcAFSAAQ",
  "cANGEDcBAUcATMAAUcSHIYYAALAAbABBREVIATION MARKbPUNCTUATION MELODIC QITSAcZIQAAcQITSAcZAEFcTURU",
  "cARKAANUcSOF MASHFAATcANNAAU.840aMANDAIC LETTER HALQAcABcAGcADcAHcUSHENNAcAZcITcATTcAKSAcAKcAL",
  "cAMcANcAScINcAPcASZcAQcARcASHcATcDUSHENNAcKADcAINbAFFRICATION MARKbVOCALIZATION MARK",
  "bGEMINATION MARK.85EbPUNCTUATION.860aSYRIAC LETTER MALAYALAM NGAdJAdNYAdTTAdNNAdNNNAdBHAdRA",
  "dLLAdLLLAdSSA.870aARABIC LETTER ALEF WITH ATTACHED FATHAfTOP RIGHT FATHAeRIGHT MIDDLE STROKE",
  "eLEFT MIDDLE STROKEeATTACHED KASRAfBOTTOM RIGHT KASRAfROUND DOT ABOVEfRIGHT ROUND DOT",
  "fLEFT ROUND DOTfROUND DOT BELOWeDOT ABOVEeATTACHED TOP RIGHT FATHA AND DOT ABOVE",
  "eRIGHT MIDDLE STROKE AND DOT ABOVEeATTACHED BOTTOM RIGHT KASRA AND DOT ABOVE",
  "fTOP RIGHT FATHA AND LEFT RINGeRIGHT MIDDLE STROKE AND LEFT RING",
  "eATTACHED BOTTOM RIGHT KASRA AND LEFT RINGfRIGHT HAMZAfLEFT HAMZA",
  "bTATWEEL WITH OVERSTRUCK HAMZAeWAWdTWO DOTS BELOWbLETTER THIN YEHbBASELINE ROUND DOT",
  "bRAISED ROUND DOTbLETTER NOON WITH INVERTED SMALL VcHAH WITH INVERTED SMALL V BELOW",
  "cTAH WITH DOT BELOWeTHREE DOTS BELOWcKEHEH WITH TWO DOTS VERTICALLY BELOWbVERTICAL TAIL",
  ".890bPOUND MARK ABOVEbPIASTRE MARK ABOVE.898bSMALL HIGH WORD AL-JUZcLOW WORD ISHMAAMeIMAALA",
  "eTASHEELbMADDA WAAJIBbSUPERSCRIPT ALEF MOKHASSASbDOUBLED MADDAbHALF MADDA OVER MADDA",
  "bLETTER BEH WITH SMALL V BELOWeHAMZA ABOVEcJEEM WITH TWO DOTS ABOVEcTAH WITH TWO DOTS ABOVE",
  "cFEH WITH DOT BELOW AND THREE DOTS ABOVEcQAF WITH DOT BELOWcLAM WITH DOUBLE BAR",
  "cMEEM WITH THREE DOTS ABOVEcYEH WITH TWO DOTS BELOW AND HAMZA ABOVEiDOT ABOVEcREH WITH LOOP",
  "cWAW WITH DOT WITHINcROHINGYA YEHcLOW ALEFcDAL WITH THREE DOTS BELOWcSAD WITH THREE DOTS BELOW",
  "cGAF WITH INVERTED STROKEcSTRAIGHT WAWcZAIN WITH INVERTED V ABOVEcAIN WITH THREE DOTS BELOW",
  "cKAF WITH DOT BELOWcQAF WITH DOT BELOW AND NO DOTS ABOVEcBEH WITH SMALL MEEM ABOVE",
  "cPEH WITH SMALL MEEM ABOVEcTEH WITH SMALL TEH ABOVEcREH WITH SMALL NOON ABOVE",
  "cYEH WITH TWO DOTS BELOW AND SMALL NOON ABOVEcAFRICAN FEHdQAFdNOONcPEH WITH SMALL V",
  "cTEH WITH SMALL VcTTEH WITH SMALL VcTCHEH WITH SMALL VcKEHEH WITH SMALL V",
  "cGHAIN WITH THREE DOTS ABOVEcAFRICAN QAF WITH THREE DOTS ABOVEcJEEM WITH THREE DOTS ABOVE",
  "gBELOWcLAM WITH SMALL ARABIC LETTER TAH ABOVEcGRAFbSMALL FARSI YEHcHIGH FARSI YEH",
  "dYEH BARREE WITH TWO DOTS BELOWdWORD SAHdZAHbLARGE ROUND DOT ABOVEeBELOWbSUKUN BELOW",
  "bLARGE CIRCLE BELOWcROUND DOT INSIDE CIRCLE BELOWbSMALL LOW WAWcHIGH WORD AR-RUBdSADdAINdQAF",
  "dNOON WITH KASRAcLOW NOON WITH KASRAcHIGH WORD ATH-THALATHAeAS-SAJDAeAN-NISFeSAKTAeQIFeWAQFA",
  "dFOOTNOTE MARKERdSIGN SAFHAbDISPUTED END OF AYAHbTURNED DAMMA BELOWbCURLY FATHAcDAMMAcKASRA",
  "cFATHATANcDAMMATANcKASRATANbTONE ONE DOT ABOVEcTWO DOTS ABOVEcLOOP ABOVEcONE DOT BELOW",
  "cTWO DOTS BELOWcLOOP BELOWbOPEN FATHATANcDAMMATANcKASRATANbSMALL HIGH WAWbFATHA WITH RING",
  "dDOT ABOVEbKASRA WITH DOT BELOWbLEFT ARROWHEAD ABOVEbRIGHT ARROWHEAD ABOVE",
  "bLEFT ARROWHEAD BELOWbRIGHT ARROWHEAD BELOWbDOUBLE RIGHT ARROWHEAD ABOVEfWITH DOT",
  "bRIGHT ARROWHEAD ABOVE WITH DOTbDAMMA WITH DOTbMARK SIDEWAYS NOON GHUNNA",
  "aDEVANAGARI SIGN INVERTED CANDRABINDUcCANDRABINDUcANUSVARAcVISARGAbLETTER SHORT AcAcAAcIcIIcU",
  "cUUcVOCALIC RdLcCANDRA EcSHORT EcEcAIcCANDRA OcSHORT OcOcAUcKAcKHAcGAcGHAcNGAcCAcCHAcJAcJHA",
  "cNYAcTTAcTTHAcDDAcDDHAcNNAcTAcTHAcDAcDHAcNAcNNNAcPAcPHAcBAcBHAcMAcYAcRAcRRAcLAcLLAcLLLAcVAcSHA",
  "cSSAcSAcHAbVOWEL SIGN OEdOOEbSIGN NUKTAcAVAGRAHAbVOWEL SIGN AAdIdIIdUdUUdVOCALIC ReRRdCANDRA E",
  "dSHORT EdEdAIdCANDRA OdSHORT OdOdAUbSIGN VIRAMAbVOWEL SIGN PRISHTHAMATRA EdAWbOM",
  "bSTRESS SIGN UDATTAdANUDATTAbGRAVE ACCENTbACUTE ACCENTbVOWEL SIGN CANDRA LONG EdUEdUUE",
  "bLETTER QAcKHHAcGHHAcZAcDDDHAcRHAcFAcYYAcVOCALIC RRdLLbVOWEL SIGN VOCALIC LeLLbDANDA",
  "bDOUBLE DANDAbDIGIT ZEROcONEcTWOcTHREEcFOURcFIVEcSIXcSEVENcEIGHTcNINEbABBREVIATION SIGN",
  "bSIGN HIGH SPACING DOTbLETTER CANDRA AcOEcOOEcAWcUEcUUEcMARWARI DDAcZHAcHEAVY YAcGGAcJJA",
  "cGLOTTAL STOPcDDDAcBBAaBENGALI ANJIbSIGN CANDRABINDUcANUSVARAcVISARGA.985bLETTER AcAAcIcIIcU",
  "cUUcVOCALIC RdL.98FcEcAI.993cOcAUcKAcKHAcGAcGHAcNGAcCAcCHAcJAcJHAcNYAcTTAcTTHAcDDAcDDHAcNNAcTA",
  "cTHAcDAcDHAcNA.9AAcPAcPHAcBAcBHAcMAcYAcRA.9B2cLA.9B6cSHAcSSAcSAcHA.9BCbSIGN NUKTAcAVAGRAHA",
  "bVOWEL SIGN AAdIdIIdUdUUdVOCALIC ReRR.9C7dEdAI.9CBdOdAUbSIGN VIRAMAbLETTER KHANDA TA",
  ".9D7bAU LENGTH MARK.9DCbLETTER RRAcRHA.9DFcYYAcVOCALIC RRdLLbVOWEL SIGN VOCALIC LeLL",
  ".9E6bDIGIT ZEROcONEcTWOcTHREEcFOURcFIVEcSIXcSEVENcEIGHTcNINEbLETTER RA WITH MIDDLE DIAGONAL",
  "eLOWER DIAGONALbRUPEE MARKcSIGNbCURRENCY NUMERATOR ONEdTWOdTHREEdFOUR",
  "dONE LESS THAN THE DENOMINATORcDENOMINATOR SIXTEENbISSHARbGANDA MARKbLETTER VEDIC ANUSVARA",
  "bABBREVIATION SIGNbSANDHI MARK.A01aGURMUKHI SIGN ADAK BINDIcBINDIcVISARGA.A05bLETTER AcAAcIcII",
  "cUcUU.A0FcEEcAI.A13cOOcAUcKAcKHAcGAcGHAcNGAcCAcCHAcJAcJHAcNYAcTTAcTTHAcDDAcDDHAcNNAcTAcTHAcDA",
  "cDHAcNA.A2AcPAcPHAcBAcBHAcMAcYAcRA.A32cLAcLLA.A35cVAcSHA.A38cSAcHA.A3CbSIGN NUKTA",
  ".A3EbVOWEL SIGN AAdIdIIdUdUU.A47dEEdAI.A4BdOOdAUbSIGN VIRAMA.A51cUDAAT.A59bLETTER KHHAcGHHAcZA",
  "cRRA.A5EcFA.A66bDIGIT ZEROcONEcTWOcTHREEcFOURcFIVEcSIXcSEVENcEIGHTcNINEbTIPPIbADDAKbIRIbURA",
  "bEK ONKARbSIGN YAKASHbABBREVIATION SIGN.A81aGUJARATI SIGN CANDRABINDUcANUSVARAcVISARGA",
  ".A85bLETTER AcAAcIcIIcUcUUcVOCALIC RdLbVOWEL CANDRA E.A8FbLETTER EcAIbVOWEL CANDRA O",
  ".A93bLETTER OcAUcKAcKHAcGAcGHAcNGAcCAcCHAcJAcJHAcNYAcTTAcTTHAcDDAcDDHAcNNAcTAcTHAcDAcDHAcNA",
  ".AAAcPAcPHAcBAcBHAcMAcYAcRA.AB2cLAcLLA.AB5cVAcSHAcSSAcSAcHA.ABCbSIGN NUKTAcAVAGRAHA",
  "bVOWEL SIGN AAdIdIIdUdUUdVOCALIC ReRRdCANDRA E.AC7dEdAIdCANDRA O.ACBdOdAUbSIGN VIRAMA.AD0bOM",
  ".AE0bLETTER VOCALIC RRdLLbVOWEL SIGN VOCALIC LeLL.AE6bDIGIT ZEROcONEcTWOcTHREEcFOURcFIVEcSIX",
  "cSEVENcEIGHTcNINEbABBREVIATION SIGNbRUPEE SIGN.AF9bLETTER ZHAbSIGN SUKUNcSHADDAcMADDAH",
  "cTHREE-DOT NUKTA ABOVEcCIRCLE NUKTA ABOVEcTWO-CIRCLE NUKTA ABOVE.B01aORIYA SIGN CANDRABINDU",
  "cANUSVARAcVISARGA.B05bLETTER AcAAcIcIIcUcUUcVOCALIC RdL.B0FcEcAI.B13cOcAUcKAcKHAcGAcGHAcNGAcCA",
  "cCHAcJAcJHAcNYAcTTAcTTHAcDDAcDDHAcNNAcTAcTHAcDAcDHAcNA.B2AcPAcPHAcBAcBHAcMAcYAcRA.B32cLAcLLA",
  ".B35cVAcSHAcSSAcSAcHA.B3CbSIGN NUKTAcAVAGRAHAbVOWEL SIGN AAdIdIIdUdUUdVOCALIC ReRR.B47dEdAI",
  ".B4BdOdAUbSIGN VIRAMA.B55cOVERLINEbAI LENGTH MARKbAU LENGTH MARK.B5CbLETTER RRAcRHA.B5FcYYA",
  "cVOCALIC RRdLLbVOWEL SIGN VOCALIC LeLL.B66bDIGIT ZEROcONEcTWOcTHREEcFOURcFIVEcSIXcSEVENcEIGHT",
  "cNINEbISSHARbLETTER WAbFRACTION ONE QUARTERdHALFcTHREE QUARTERScONE SIXTEENTHdEIGHTH",
  "cTHREE SIXTEENTHS.B82aTAMIL SIGN ANUSVARAcVISARGA.B85bLETTER AcAAcIcIIcUcUU.B8EcEcEEcAI.B92cO",
  "cOOcAUcKA.B99cNGAcCA.B9CcJA.B9EcNYAcTTA.BA3cNNAcTA.BA8cNAcNNNAcPA.BAEcMAcYAcRAcRRAcLAcLLAcLLLA",
  "cVAcSHAcSSAcSAcHA.BBEbVOWEL SIGN AAdIdIIdUdUU.BC6dEdEEdAI.BCAdOdOOdAUbSIGN VIRAMA.BD0bOM",
  ".BD7bAU LENGTH MARK.BE6bDIGIT ZEROcONEcTWOcTHREEcFOURcFIVEcSIXcSEVENcEIGHTcNINEbNUMBER TEN",
  "cONE HUNDREDdTHOUSANDbDAY SIGNbMONTH SIGNbYEAR SIGNbDEBIT SIGNbCREDIT SIGNbAS ABOVE SIGN",
  "bRUPEE SIGNbNUMBER SIGN.C00aTELUGU SIGN COMBINING CANDRABINDU ABOVEcCANDRABINDUcANUSVARA",
  "cVISARGAcCOMBINING ANUSVARA ABOVEbLETTER AcAAcIcIIcUcUUcVOCALIC RdL.C0EcEcEEcAI.C12cOcOOcAUcKA",
  "cKHAcGAcGHAcNGAcCAcCHAcJAcJHAcNYAcTTAcTTHAcDDAcDDHAcNNAcTAcTHAcDAcDHAcNA.C2AcPAcPHAcBAcBHAcMA",
  "cYAcRAcRRAcLAcLLAcLLLAcVAcSHAcSSAcSAcHA.C3CbSIGN NUKTAcAVAGRAHAbVOWEL SIGN AAdIdIIdUdUU",
  "dVOCALIC ReRR.C46dEdEEdAI.C4AdOdOOdAUbSIGN VIRAMA.C55bLENGTH MARKbAI LENGTH MARK",
  ".C58bLETTER TSAcDZAcRRRA.C5DcNAKAARA POLLU.C60cVOCALIC RRdLLbVOWEL SIGN VOCALIC LeLL",
  ".C66bDIGIT ZEROcONEcTWOcTHREEcFOURcFIVEcSIXcSEVENcEIGHTcNINE.C77bSIGN SIDDHAM",
  "bFRACTION DIGIT ZERO FOR ODD POWERS OF FOURdONE FOR ODD POWERS OF FOUR",
  "dTWO FOR ODD POWERS OF FOURdTHREE FOR ODD POWERS OF FOURdONE FOR EVEN POWERS OF FOUR",
  "dTWO FOR EVEN POWERS OF FOURdTHREE FOR EVEN POWERS OF FOURbSIGN TUUMU",
  "aKANNADA SIGN SPACING CANDRABINDUcCANDRABINDUcANUSVARAcVISARGAcSIDDHAMbLETTER AcAAcIcIIcUcUU",
  "cVOCALIC RdL.C8EcEcEEcAI.C92cOcOOcAUcKAcKHAcGAcGHAcNGAcCAcCHAcJAcJHAcNYAcTTAcTTHAcDDAcDDHAcNNA",
  "cTAcTHAcDAcDHAcNA.CAAcPAcPHAcBAcBHAcMAcYAcRAcRRAcLAcLLA.CB5cVAcSHAcSSAcSAcHA.CBCbSIGN NUKTA",
  "cAVAGRAHAbVOWEL SIGN AAdIdIIdUdUUdVOCALIC ReRR.CC6dEdEEdAI.CCAdOdOOdAUbSIGN VIRAMA",
  ".CD5bLENGTH MARKbAI LENGTH MARK.CDDbLETTER NAKAARA POLLUcFA.CE0cVOCALIC RRdLL",
  "bVOWEL SIGN VOCALIC LeLL.CE6bDIGIT ZEROcONEcTWOcTHREEcFOURcFIVEcSIXcSEVENcEIGHTcNINE",
  ".CF1bSIGN JIHVAMULIYAcUPADHMANIYA.D00aMALAYALAM SIGN COMBINING ANUSVARA ABOVEcCANDRABINDU",
  "cANUSVARAcVISARGAbLETTER VEDIC ANUSVARAcAcAAcIcIIcUcUUcVOCALIC RdL.D0EcEcEEcAI.D12cOcOOcAUcKA",
  "cKHAcGAcGHAcNGAcCAcCHAcJAcJHAcNYAcTTAcTTHAcDDAcDDHAcNNAcTAcTHAcDAcDHAcNAcNNNAcPAcPHAcBAcBHAcMA",
  "cYAcRAcRRAcLAcLLAcLLLAcVAcSHAcSSAcSAcHAcTTTAbSIGN VERTICAL BAR VIRAMAcCIRCULAR VIRAMAcAVAGRAHA",
  "bVOWEL SIGN AAdIdIIdUdUUdVOCALIC ReRR.D46dEdEEdAI.D4AdOdOOdAUbSIGN VIRAMAbLETTER DOT REPH",
  "bSIGN PARA.D54bLETTER CHILLU MdYdLLLbAU LENGTH MARKbFRACTION ONE ONE-HUNDRED-AND-SIXTIETH",
  "dFORTIETHcTHREE EIGHTIETHScONE TWENTIETHdTENTHcTHREE TWENTIETHScONE FIFTHbLETTER ARCHAIC II",
  "cVOCALIC RRdLLbVOWEL SIGN VOCALIC LeLL.D66bDIGIT ZEROcONEcTWOcTHREEcFOURcFIVEcSIXcSEVENcEIGHT",
  "cNINEbNUMBER TENcONE HUNDREDdTHOUSANDbFRACTION ONE QUARTERdHALFcTHREE QUARTERScONE SIXTEENTH",
  "dEIGHTHcTHREE SIXTEENTHSbDATE MARKbLETTER CHILLU NNdNdRRdLdLLdK.D81aSINHALA SIGN CANDRABINDU",
  "cANUSVARAYAcVISARGAYA.D85bLETTER AYANNAcAAYANNAcAEYANNAcAEEYANNAcIYANNAcIIYANNAcUYANNAcUUYANNA",
  "cIRUYANNAcIRUUYANNAcILUYANNAcILUUYANNAcEYANNAcEEYANNAcAIYANNAcOYANNAcOOYANNAcAUYANNA",
  ".D9AcALPAPRAANA KAYANNAcMAHAAPRAANA KAYANNAcALPAPRAANA GAYANNAcMAHAAPRAANA GAYANNA",
  "cKANTAJA NAASIKYAYAcSANYAKA GAYANNAcALPAPRAANA CAYANNAcMAHAAPRAANA CAYANNAcALPAPRAANA JAYANNA",
  "cMAHAAPRAANA JAYANNAcTAALUJA NAASIKYAYAdSANYOOGA NAAKSIKYAYAcSANYAKA JAYANNA",
  "cALPAPRAANA TTAYANNAcMAHAAPRAANA TTAYANNAcALPAPRAANA DDAYANNAcMAHAAPRAANA DDAYANNA",
  "cMUURDHAJA NAYANNAcSANYAKA DDAYANNAcALPAPRAANA TAYANNAcMAHAAPRAANA TAYANNAcALPAPRAANA DAYANNA",
  "cMAHAAPRAANA DAYANNAcDANTAJA NAYANNA.DB3cSANYAKA DAYANNAcALPAPRAANA PAYANNA",
  "cMAHAAPRAANA PAYANNAcALPAPRAANA BAYANNAcMAHAAPRAANA BAYANNAcMAYANNAcAMBA BAYANNAcYAYANNA",
  "cRAYANNA.DBDcDANTAJA LAYANNA.DC0cVAYANNAcTAALUJA SAYANNAcMUURDHAJA SAYANNAcDANTAJA SAYANNA",
  "cHAYANNAcMUURDHAJA LAYANNAcFAYANNA.DCAbSIGN AL-LAKUNA.DCFbVOWEL SIGN AELA-PILLA",
  "dKETTI AEDA-PILLAdDIGA AEDA-PILLAdKETTI IS-PILLAdDIGA IS-PILLAdKETTI PAA-PILLA",
  ".DD6dDIGA PAA-PILLA.DD8dGAETTA-PILLAdKOMBUVAdDIGA KOMBUVAdKOMBU DEKAdKOMBUVA HAA AELA-PILLA",
  "fDIGA AELA-PILLAfGAYANUKITTAdGAYANUKITTA.DE6bLITH DIGIT ZEROdONEdTWOdTHREEdFOURdFIVEdSIXdSEVEN",
  "dEIGHTdNINE.DF2bVOWEL SIGN DIGA GAETTA-PILLAeGAYANUKITTAbPUNCTUATION KUNDDALIYA",
  ".E01aTHAI CHARACTER KO KAIcKHO KHAIdKHUATdKHWAIdKHONdRAKHANGcNGO NGUcCHO CHANdCHINGdCHANG",
  "cSO SOcCHO CHOEcYO YINGcDO CHADAcTO PATAKcTHO THANdNANGMONTHOdPHUTHAOcNO NENcDO DEKcTO TAO",
  "cTHO THUNGdTHAHANdTHONGcNO NUcBO BAIMAIcPO PLAcPHO PHUNGcFO FAcPHO PHANcFO FANcPHO SAMPHAO",
  "cMO MAcYO YAKcRO RUAcRUcLO LINGcLUcWO WAENcSO SALAdRUSIdSUAcHO HIPcLO CHULAcO ANGcHO NOKHUK",
  "cPAIYANNOIcSARA AcMAI HAN-AKATcSARA AAdAMdIdIIdUEdUEEdUdUUcPHINTHU.E3FbCURRENCY SYMBOL BAHT",
  "bCHARACTER SARA EdAEdOdAI MAIMUANeMAIMALAIcLAKKHANGYAOcMAIYAMOKcMAITAIKHUcMAI EKdTHOdTRI",
  "dCHATTAWAcTHANTHAKHATcNIKHAHITcYAMAKKANcFONGMANbDIGIT ZEROcONEcTWOcTHREEcFOURcFIVEcSIXcSEVEN",
  "cEIGHTcNINEbCHARACTER ANGKHANKHUcKHOMUT.E81aLAO LETTER KOcKHO SUNG.E84dTAM.E86cPALI GHAcNGOcCO",
  "cPALI CHAcSO TAM.E8CcPALI JHAcNYOcPALI NYAdTTAdTTHAdDDAdDDHAdNNAcDOcTOcTHO SUNGdTAMcPALI DHA",
  "cNOcBOcPOcPHO SUNGcFO TAMcPHO TAMcFO SUNGcPALI BHAcMOcYOcLO LING.EA5dLOOT.EA7cWOcSANSKRIT SHA",
  "dSSAcSO SUNGcHO SUNGcPALI LLAcOcHO TAMbELLIPSISbVOWEL SIGN AdMAI KANdAAdAMdIdIIdYdYYdUdUU",
  "bSIGN PALI VIRAMAbVOWEL SIGN MAI KONbSEMIVOWEL SIGN LOdNYO.EC0bVOWEL SIGN EdEIdOdAYdAI",
  ".EC6bKO LA.EC8bTONE MAI EKdTHOdTIdCATAWAbCANCELLATION MARKbNIGGAHITA.ED0bDIGIT ZEROcONEcTWO",
  "cTHREEcFOURcFIVEcSIXcSEVENcEIGHTcNINE.EDCbHO NOcMObLETTER KHMU GOdNYO.F00aTIBETAN SYLLABLE OM",
  "bMARK GTER YIG MGO TRUNCATED Af-UM RNAM BCAD MAgGTER TSHEG MAcINITIAL YIG MGO MDUN MA",
  "cCLOSING YIG MGO SGAB MAcCARET YIG MGO PHUR SHAD MAcYIG MGO TSHEG SHAD MAcSBRUL SHAD",
  "cBSKUR YIG MGOcBKA- SHOG YIG MGOcINTERSYLLABIC TSHEGcDELIMITER TSHEG BSTARcSHADcNYIS SHAD",
  "cTSHEG SHADcNYIS TSHEG SHADcRIN CHEN SPUNGS SHADcRGYA GRAM SHADcCARET -DZUD RTAGS ME LONG CAN",
  "cGTER TSHEGbLOGOTYPE SIGN CHAD RTAGSdLHAG RTAGSbASTROLOGICAL SIGN SGRA GCAN -CHAR RTAGS",
  "d-KHYUD PAdSDONG TSHUGSbSIGN RDEL DKAR GCIGeGNYISeGSUMdNAG GCIGeGNYISdDKAR RDEL NAGbDIGIT ZERO",
  "cONEcTWOcTHREEcFOURcFIVEcSIXcSEVENcEIGHTcNINEcHALF ONEdTWOdTHREEdFOURdFIVEdSIXdSEVENdEIGHT",
  "dNINEdZERObMARK BSDUS RTAGScNGAS BZUNG NYI ZLAcCARET -DZUD RTAGS BZHI MIG CAN",
  "cNGAS BZUNG SGOR RTAGScCHE MGOcTSA -PHRUcGUG RTAGS GYONeGYAScANG KHANG GYONeGYAS",
  "bSIGN YAR TSHEScMAR TSHESbLETTER KAcKHAcGAcGHAcNGAcCAcCHAcJA.F49cNYAcTTAcTTHAcDDAcDDHAcNNAcTA",
  "cTHAcDAcDHAcNAcPAcPHAcBAcBHAcMAcTSAcTSHAcDZAcDZHAcWAcZHAcZAc-AcYAcRAcLAcSHAcSSAcSAcHAcAcKSSA",
  "cFIXED-FORM RAcKKAcRRA.F71bVOWEL SIGN AAdIdIIdUdUUdVOCALIC ReRReLeLLdEdEEdOdOO",
  "bSIGN RJES SU NGA ROcRNAM BCADbVOWEL SIGN REVERSED IeIIbSIGN NYI ZLA NAA DAcSNA LDAN",
  "bMARK HALANTAcPALUTAbSIGN LCI RTAGScYANG RTAGScLCE TSA CANcMCHU CANcGRU CAN RGYINGS",
  "dMED RGYINGScINVERTED MCHU CANbSUBJOINED SIGN LCE TSA CANdMCHU CANdINVERTED MCHU CANcLETTER KA",
  "dKHAdGAdGHAdNGAdCAdCHAdJA.F99dNYAdTTAdTTHAdDDAdDDHAdNNAdTAdTHAdDAdDHAdNAdPAdPHAdBAdBHAdMAdTSA",
  "dTSHAdDZAdDZHAdWAdZHAdZAd-AdYAdRAdLAdSHAdSSAdSAdHAdAdKSSAdFIXED-FORM WAeYAeRA.FBEbKU RU KHA",
  "eBZHI MIG CANbCANTILLATION SIGN HEAVY BEATdLIGHT BEATdCANG TE-UdSBUB -CHALbSYMBOL DRIL BU",
  "cRDO RJEcPADMA GDANcRDO RJE RGYA GRAMcPHUR PAcNOR BUeNYIS -KHYILeGSUM -KHYILeBZHI -KHYIL",
  ".FCEbSIGN RDEL NAG RDEL DKAReGSUMbMARK BSKA- SHOG GI MGO RGYANcMNYAM YIG GI MGO RGYAN",
  "cNYIS TSHEGcINITIAL BRDA RNYING YIG MGO MDUN MAcCLOSING BRDA RNYING YIG MGO SGAB MA",
  "aRIGHT-FACING SVASTI SIGNaLEFT-FACING SVASTI SIGNaRIGHT-FACING SVASTI SIGN WITH DOTS",
  "aLEFT-FACING SVASTI SIGN WITH DOTSaTIBETAN MARK LEADING MCHAN RTAGScTRAILING MCHAN RTAGS",
  ".1000aMYANMAR LETTER KAcKHAcGAcGHAcNGAcCAcCHAcJAcJHAcNYAcNNYAcTTAcTTHAcDDAcDDHAcNNAcTAcTHAcDA",
  "cDHAcNAcPAcPHAcBAcBHAcMAcYAcRAcLAcWAcSAcHAcLLAcAcSHAN AcIcIIcUcUUcEcMON EcOcAU",
  "bVOWEL SIGN TALL AAdAAdIdIIdUdUUdEdAIdMON IIeOdE ABOVEbSIGN ANUSVARAcDOT BELOWcVISARGAcVIRAMA",
  "cASATbCONSONANT SIGN MEDIAL YAeRAeWAeHAbLETTER GREAT SAbDIGIT ZEROcONEcTWOcTHREEcFOURcFIVEcSIX",
  "cSEVENcEIGHTcNINEbSIGN LITTLE SECTIONcSECTIONbSYMBOL LOCATIVEcCOMPLETEDcAFOREMENTIONED",
  "cGENITIVEbLETTER SHAcSSAcVOCALIC RdRRdLdLLbVOWEL SIGN VOCALIC ReRReLeLLbLETTER MON NGAdJHAdBBA",
  "dBBEbCONSONANT SIGN MON MEDIAL NAfMAfLAbLETTER SGAW KAREN SHAbVOWEL SIGN SGAW KAREN EU",
  "bTONE MARK SGAW KAREN HATHIfKE PHObLETTER WESTERN PWO KAREN THAfPWA",
  "bVOWEL SIGN WESTERN PWO KAREN EUgUEbSIGN WESTERN PWO KAREN TONE-1fTONE-2fTONE-3fTONE-4fTONE-5",
  "bLETTER EASTERN PWO KAREN NNAfYWAfGHWAbVOWEL SIGN GEBA KAREN IdKAYAH OEeUeEEbLETTER SHAN KA",
  "dKHAdGAdCAdZAdNYAdDAdNAdPHAdFAdBAdTHAdHAbCONSONANT SIGN SHAN MEDIAL WAbVOWEL SIGN SHAN AAeE",
  "fABOVEeFINAL YbSIGN SHAN TONE-2dTONE-3dTONE-5dTONE-6dCOUNCIL TONE-2eTONE-3eEMPHATIC TONE",
  "bLETTER RUMAI PALAUNG FAbSIGN RUMAI PALAUNG TONE-5bSHAN DIGIT ZEROdONEdTWOdTHREEdFOURdFIVEdSIX",
  "dSEVENdEIGHTdNINEbSIGN KHAMTI TONE-1dTONE-3bVOWEL SIGN AITON AeAIbSYMBOL SHAN ONEdEXCLAMATION",
  "aGEORGIAN CAPITAL LETTER ANdBANdGANdDONdENdVINdZENdTANdINdKANdLASdMANdNARdONdPARdZHARdRAEdSAN",
  "dTARdUNdPHARdKHARdGHANdQARdSHINdCHINdCANdJILdCILdCHARdXANdJHANdHAEdHEdHIEdWEdHARdHOE.10C7dYN",
  ".10CDdAEN.10D0bLETTER ANcBANcGANcDONcENcVINcZENcTANcINcKANcLAScMANcNARcONcPARcZHARcRAEcSANcTAR",
  "cUNcPHARcKHARcGHANcQARcSHINcCHINcCANcJILcCILcCHARcXANcJHANcHAEcHEcHIEcWEcHARcHOEcFIcYNcELIFI",
  "cTURNED GANcAINbPARAGRAPH SEPARATORaMODIFIER LETTER GEORGIAN NARaGEORGIAN LETTER AENcHARD SIGN",
  "cLABIAL SIGNaHANGUL CHOSEONG KIYEOKcSSANGKIYEOKcNIEUNcTIKEUTcSSANGTIKEUTcRIEULcMIEUMcPIEUP",
  "cSSANGPIEUPcSIOScSSANGSIOScIEUNGcCIEUCcSSANGCIEUCcCHIEUCHcKHIEUKHcTHIEUTHcPHIEUPHcHIEUH",
  "cNIEUN-KIYEOKcSSANGNIEUNcNIEUN-TIKEUTcNIEUN-PIEUPcTIKEUT-KIYEOKcRIEUL-NIEUNcSSANGRIEUL",
  "cRIEUL-HIEUHcKAPYEOUNRIEULcMIEUM-PIEUPcKAPYEOUNMIEUMcPIEUP-KIYEOKcPIEUP-NIEUNcPIEUP-TIKEUT",
  "cPIEUP-SIOScPIEUP-SIOS-KIYEOKcPIEUP-SIOS-TIKEUTcPIEUP-SIOS-PIEUPcPIEUP-SSANGSIOS",
  "cPIEUP-SIOS-CIEUCcPIEUP-CIEUCcPIEUP-CHIEUCHcPIEUP-THIEUTHcPIEUP-PHIEUPHcKAPYEOUNPIEUP",
  "cKAPYEOUNSSANGPIEUPcSIOS-KIYEOKcSIOS-NIEUNcSIOS-TIKEUTcSIOS-RIEULcSIOS-MIEUMcSIOS-PIEUP",
  "cSIOS-PIEUP-KIYEOKcSIOS-SSANGSIOScSIOS-IEUNGcSIOS-CIEUCcSIOS-CHIEUCHcSIOS-KHIEUKHcSIOS-THIEUTH",
  "cSIOS-PHIEUPHcSIOS-HIEUHcCHITUEUMSIOScCHITUEUMSSANGSIOScCEONGCHIEUMSIOScCEONGCHIEUMSSANGSIOS",
  "cPANSIOScIEUNG-KIYEOKcIEUNG-TIKEUTcIEUNG-MIEUMcIEUNG-PIEUPcIEUNG-SIOScIEUNG-PANSIOScSSANGIEUNG",
  "cIEUNG-CIEUCcIEUNG-CHIEUCHcIEUNG-THIEUTHcIEUNG-PHIEUPHcYESIEUNGcCIEUC-IEUNGcCHITUEUMCIEUC",
  "cCHITUEUMSSANGCIEUCcCEONGCHIEUMCIEUCcCEONGCHIEUMSSANGCIEUCcCHIEUCH-KHIEUKHcCHIEUCH-HIEUH",
  "cCHITUEUMCHIEUCHcCEONGCHIEUMCHIEUCHcPHIEUPH-PIEUPcKAPYEOUNPHIEUPHcSSANGHIEUHcYEORINHIEUH",
  "cKIYEOK-TIKEUTcNIEUN-SIOScNIEUN-CIEUCcNIEUN-HIEUHcTIKEUT-RIEULcFILLERbJUNGSEONG FILLERcAcAEcYA",
  "cYAEcEOcEcYEOcYEcOcWAcWAEcOEcYOcUcWEOcWEcWIcYUcEUcYIcIcA-OcA-UcYA-OcYA-YOcEO-OcEO-UcEO-EU",
  "cYEO-OcYEO-UcO-EOcO-EcO-YEcO-OcO-UcYO-YAcYO-YAEcYO-YEOcYO-OcYO-IcU-AcU-AEcU-EO-EUcU-YEcU-U",
  "cYU-AcYU-EOcYU-EcYU-YEOcYU-YEcYU-UcYU-IcEU-UcEU-EUcYI-UcI-AcI-YAcI-OcI-UcI-EUcI-ARAEAcARAEA",
  "cARAEA-EOcARAEA-UcARAEA-IcSSANGARAEAcA-EUcYA-UcYEO-YAcO-YAcO-YAEbJONGSEONG KIYEOKcSSANGKIYEOK",
  "cKIYEOK-SIOScNIEUNcNIEUN-CIEUCcNIEUN-HIEUHcTIKEUTcRIEULcRIEUL-KIYEOKcRIEUL-MIEUMcRIEUL-PIEUP",
  "cRIEUL-SIOScRIEUL-THIEUTHcRIEUL-PHIEUPHcRIEUL-HIEUHcMIEUMcPIEUPcPIEUP-SIOScSIOScSSANGSIOS",
  "cIEUNGcCIEUCcCHIEUCHcKHIEUKHcTHIEUTHcPHIEUPHcHIEUHcKIYEOK-RIEULcKIYEOK-SIOS-KIYEOK",
  "cNIEUN-KIYEOKcNIEUN-TIKEUTcNIEUN-SIOScNIEUN-PANSIOScNIEUN-THIEUTHcTIKEUT-KIYEOKcTIKEUT-RIEUL",
  "cRIEUL-KIYEOK-SIOScRIEUL-NIEUNcRIEUL-TIKEUTcRIEUL-TIKEUT-HIEUHcSSANGRIEULcRIEUL-MIEUM-KIYEOK",
  "cRIEUL-MIEUM-SIOScRIEUL-PIEUP-SIOScRIEUL-PIEUP-HIEUHcRIEUL-KAPYEOUNPIEUPcRIEUL-SSANGSIOS",
  "cRIEUL-PANSIOScRIEUL-KHIEUKHcRIEUL-YEORINHIEUHcMIEUM-KIYEOKcMIEUM-RIEULcMIEUM-PIEUPcMIEUM-SIOS",
  "cMIEUM-SSANGSIOScMIEUM-PANSIOScMIEUM-CHIEUCHcMIEUM-HIEUHcKAPYEOUNMIEUMcPIEUP-RIEUL",
  "cPIEUP-PHIEUPHcPIEUP-HIEUHcKAPYEOUNPIEUPcSIOS-KIYEOKcSIOS-TIKEUTcSIOS-RIEULcSIOS-PIEUPcPANSIOS",
  "cIEUNG-KIYEOKcIEUNG-SSANGKIYEOKcSSANGIEUNGcIEUNG-KHIEUKHcYESIEUNGcYESIEUNG-SIOS",
  "cYESIEUNG-PANSIOScPHIEUPH-PIEUPcKAPYEOUNPHIEUPHcHIEUH-NIEUNcHIEUH-RIEULcHIEUH-MIEUM",
  "cHIEUH-PIEUPcYEORINHIEUHcKIYEOK-NIEUNcKIYEOK-PIEUPcKIYEOK-CHIEUCHcKIYEOK-KHIEUKHcKIYEOK-HIEUH",
  "cSSANGNIEUNaETHIOPIC SYLLABLE HAcHUcHIcHAAcHEEcHEcHOcHOAcLAcLUcLIcLAAcLEEcLEcLOcLWAcHHAcHHU",
  "cHHIcHHAAcHHEEcHHEcHHOcHHWAcMAcMUcMIcMAAcMEEcMEcMOcMWAcSZAcSZUcSZIcSZAAcSZEEcSZEcSZOcSZWAcRA",
  "cRUcRIcRAAcREEcREcROcRWAcSAcSUcSIcSAAcSEEcSEcSOcSWAcSHAcSHUcSHIcSHAAcSHEEcSHEcSHOcSHWAcQAcQU",
  "cQIcQAAcQEEcQEcQOcQOAcQWA.124AcQWIcQWAAcQWEEcQWE.1250cQHAcQHUcQHIcQHAAcQHEEcQHEcQHO.1258cQHWA",
  ".125AcQHWIcQHWAAcQHWEEcQHWE.1260cBAcBUcBIcBAAcBEEcBEcBOcBWAcVAcVUcVIcVAAcVEEcVEcVOcVWAcTAcTU",
  "cTIcTAAcTEEcTEcTOcTWAcCAcCUcCIcCAAcCEEcCEcCOcCWAcXAcXUcXIcXAAcXEEcXEcXOcXOAcXWA.128AcXWIcXWAA",
  "cXWEEcXWE.1290cNAcNUcNIcNAAcNEEcNEcNOcNWAcNYAcNYUcNYIcNYAAcNYEEcNYEcNYOcNYWAcGLOTTAL AdUdIdAA",
  "dEEdEdOdWAcKAcKUcKIcKAAcKEEcKEcKOcKOAcKWA.12B2cKWIcKWAAcKWEEcKWE.12B8cKXAcKXUcKXIcKXAAcKXEE",
  "cKXEcKXO.12C0cKXWA.12C2cKXWIcKXWAAcKXWEEcKXWE.12C8cWAcWUcWIcWAAcWEEcWEcWOcWOAcPHARYNGEAL AdUdI",
  "dAAdEEdEdO.12D8cZAcZUcZIcZAAcZEEcZEcZOcZWAcZHAcZHUcZHIcZHAAcZHEEcZHEcZHOcZHWAcYAcYUcYIcYAAcYEE",
  "cYEcYOcYOAcDAcDUcDIcDAAcDEEcDEcDOcDWAcDDAcDDUcDDIcDDAAcDDEEcDDEcDDOcDDWAcJAcJUcJIcJAAcJEEcJE",
  "cJOcJWAcGAcGUcGIcGAAcGEEcGEcGOcGOAcGWA.1312cGWIcGWAAcGWEEcGWE.1318cGGAcGGUcGGIcGGAAcGGEEcGGE",
  "cGGOcGGWAAcTHAcTHUcTHIcTHAAcTHEEcTHEcTHOcTHWAcCHAcCHUcCHIcCHAAcCHEEcCHEcCHOcCHWAcPHAcPHUcPHI",
  "cPHAAcPHEEcPHEcPHOcPHWAcTSAcTSUcTSIcTSAAcTSEEcTSEcTSOcTSWAcTZAcTZUcTZIcTZAAcTZEEcTZEcTZOcTZOA",
  "cFAcFUcFIcFAAcFEEcFEcFOcFWAcPAcPUcPIcPAAcPEEcPEcPOcPWAcRYAcMYAcFYA",
  ".135DbCOMBINING GEMINATION AND VOWEL LENGTH MARKcVOWEL LENGTH MARKcGEMINATION MARK",
  "bSECTION MARKbWORDSPACEbFULL STOPbCOMMAbSEMICOLONbCOLONbPREFACE COLONbQUESTION MARK",
  "bPARAGRAPH SEPARATORbDIGIT ONEcTWOcTHREEcFOURcFIVEcSIXcSEVENcEIGHTcNINEbNUMBER TENcTWENTY",
  "cTHIRTYcFORTYcFIFTYcSIXTYcSEVENTYcEIGHTYcNINETYcHUNDREDcTEN THOUSAND",
  ".1380bSYLLABLE SEBATBEIT MWAcMWIcMWEEcMWEcSEBATBEIT BWAcBWIcBWEEcBWEcSEBATBEIT FWAcFWIcFWEE",
  "cFWEcSEBATBEIT PWAcPWIcPWEEcPWEbTONAL MARK YIZETdDERETdRIKRIKdSHORT RIKRIKdDIFATdKENATdCHIRET",
  "dHIDETdDERET-HIDETdKURT.13A0aCHEROKEE LETTER AcEcIcOcUcVcGAcKAcGEcGIcGOcGUcGVcHAcHEcHIcHOcHU",
  "cHVcLAcLEcLIcLOcLUcLVcMAcMEcMIcMOcMUcNAcHNAcNAHcNEcNIcNOcNUcNVcQUAcQUEcQUIcQUOcQUUcQUVcSAcScSE",
  "cSIcSOcSUcSVcDAcTAcDEcTEcDIcTIcDOcDUcDVcDLAcTLAcTLEcTLIcTLOcTLUcTLVcTSAcTSEcTSIcTSOcTSUcTSVcWA",
  "cWEcWIcWOcWUcWVcYAcYEcYIcYOcYUcYVcMV.13F8bSMALL LETTER YEdYIdYOdYUdYVdMV",
  ".1400aCANADIAN SYLLABICS HYPHENcEcAAIcIcIIcOcOOcY-CREE OOcCARRIER EEdIcAcAAcWEcWEST-CREE WEcWI",
  "cWEST-CREE WIcWIIcWEST-CREE WIIcWOcWEST-CREE WOcWOOcWEST-CREE WOOcNASKAPI WOOcWAcWEST-CREE WA",
  "cWAAcWEST-CREE WAAcNASKAPI WAAcAIcY-CREE WcGLOTTAL STOPcFINAL ACUTEdGRAVEdBOTTOM HALF RING",
  "dTOP HALF RINGdRIGHT HALF RINGdRINGdDOUBLE ACUTEeSHORT VERTICAL STROKESdMIDDLE DOT",
  "dSHORT HORIZONTAL STROKEdPLUSdDOWN TACKcENcINcONcANcPEcPAAIcPIcPIIcPOcPOOcY-CREE POO",
  "cCARRIER HEEdHIcPAcPAAcPWEcWEST-CREE PWEcPWIcWEST-CREE PWIcPWIIcWEST-CREE PWIIcPWO",
  "cWEST-CREE PWOcPWOOcWEST-CREE PWOOcPWAcWEST-CREE PWAcPWAAcWEST-CREE PWAAcY-CREE PWAAcP",
  "cWEST-CREE PcCARRIER HcTEcTAAIcTIcTIIcTOcTOOcY-CREE TOOcCARRIER DEEdDIcTAcTAAcTWE",
  "cWEST-CREE TWEcTWIcWEST-CREE TWIcTWIIcWEST-CREE TWIIcTWOcWEST-CREE TWOcTWOOcWEST-CREE TWOOcTWA",
  "cWEST-CREE TWAcTWAAcWEST-CREE TWAAcNASKAPI TWAAcTcTTEcTTIcTTOcTTAcKEcKAAIcKIcKIIcKOcKOO",
  "cY-CREE KOOcKAcKAAcKWEcWEST-CREE KWEcKWIcWEST-CREE KWIcKWIIcWEST-CREE KWIIcKWOcWEST-CREE KWO",
  "cKWOOcWEST-CREE KWOOcKWAcWEST-CREE KWAcKWAAcWEST-CREE KWAAcNASKAPI KWAAcKcKWcSOUTH-SLAVEY KEH",
  "dKIHdKOHdKAHcCEcCAAIcCIcCIIcCOcCOOcY-CREE COOcCAcCAAcCWEcWEST-CREE CWEcCWIcWEST-CREE CWIcCWII",
  "cWEST-CREE CWIIcCWOcWEST-CREE CWOcCWOOcWEST-CREE CWOOcCWAcWEST-CREE CWAcCWAAcWEST-CREE CWAA",
  "cNASKAPI CWAAcCcSAYISI THcMEcMAAIcMIcMIIcMOcMOOcY-CREE MOOcMAcMAAcMWEcWEST-CREE MWEcMWI",
  "cWEST-CREE MWIcMWIIcWEST-CREE MWIIcMWOcWEST-CREE MWOcMWOOcWEST-CREE MWOOcMWAcWEST-CREE MWA",
  "cMWAAcWEST-CREE MWAAcNASKAPI MWAAcMcWEST-CREE McMHcATHAPASCAN McSAYISI McNEcNAAIcNIcNIIcNOcNOO",
  "cY-CREE NOOcNAcNAAcNWEcWEST-CREE NWEcNWAcWEST-CREE NWAcNWAAcWEST-CREE NWAAcNASKAPI NWAAcN",
  "cCARRIER NGcNHcLEcLAAIcLIcLIIcLOcLOOcY-CREE LOOcLAcLAAcLWEcWEST-CREE LWEcLWIcWEST-CREE LWI",
  "cLWIIcWEST-CREE LWIIcLWOcWEST-CREE LWOcLWOOcWEST-CREE LWOOcLWAcWEST-CREE LWAcLWAA",
  "cWEST-CREE LWAAcLcWEST-CREE LcMEDIAL LcSEcSAAIcSIcSIIcSOcSOOcY-CREE SOOcSAcSAAcSWE",
  "cWEST-CREE SWEcSWIcWEST-CREE SWIcSWIIcWEST-CREE SWIIcSWOcWEST-CREE SWOcSWOOcWEST-CREE SWOOcSWA",
  "cWEST-CREE SWAcSWAAcWEST-CREE SWAAcNASKAPI SWAAcScATHAPASCAN ScSWcBLACKFOOT ScMOOSE-CREE SK",
  "cNASKAPI SKWdS-WdSPWAdSTWAdSKWAdSCWAcSHEcSHIcSHIIcSHOcSHOOcSHAcSHAAcSHWEcWEST-CREE SHWEcSHWI",
  "cWEST-CREE SHWIcSHWIIcWEST-CREE SHWIIcSHWOcWEST-CREE SHWOcSHWOOcWEST-CREE SHWOOcSHWA",
  "cWEST-CREE SHWAcSHWAAcWEST-CREE SHWAAcSHcYEcYAAIcYIcYIIcYOcYOOcY-CREE YOOcYAcYAAcYWE",
  "cWEST-CREE YWEcYWIcWEST-CREE YWIcYWIIcWEST-CREE YWIIcYWOcWEST-CREE YWOcYWOOcWEST-CREE YWOOcYWA",
  "cWEST-CREE YWAcYWAAcWEST-CREE YWAAcNASKAPI YWAAcYcBIBLE-CREE YcWEST-CREE YcSAYISI YIcRE",
  "cR-CREE REcWEST-CREE LEcRAAIcRIcRIIcROcROOcWEST-CREE LOcRAcRAAcWEST-CREE LAcRWAA",
  "cWEST-CREE RWAAcRcWEST-CREE RcMEDIAL RcFEcFAAIcFIcFIIcFOcFOOcFAcFAAcFWAAcWEST-CREE FWAAcFcTHE",
  "cN-CREE THEcTHIcN-CREE THIcTHIIcN-CREE THIIcTHOcTHOOcTHAcTHAAcTHWAAcWEST-CREE THWAAcTHcTTHE",
  "cTTHIcTTHOcTTHAcTTHcTYEcTYIcTYOcTYAcNUNAVIK HEdHIdHIIdHOdHOOdHAdHAAdHcNUNAVUT HcHKcQAAIcQIcQII",
  "cQOcQOOcQAcQAAcQcTLHEcTLHIcTLHOcTLHAcWEST-CREE REdRIdROdRAcNGAAIcNGIcNGIIcNGOcNGOOcNGAcNGAAcNG",
  "cNNGcSAYISI SHEdSHIdSHOdSHAcWOODS-CREE THEdTHIdTHOdTHAdTHcLHIcLHIIcLHOcLHOOcLHAcLHAAcLH",
  "cTH-CREE THEdTHIdTHIIdTHOdTHOOdTHAdTHAAdTHcAIVILIK BcBLACKFOOT EdIdOdAdWEdWIdWOdWAdNEdNIdNOdNA",
  "dKEdKIdKOdKAcSAYISI HEdHIdHOdHAcCARRIER GHUdGHOdGHEdGHEEdGHIdGHAdRUdROdREdREEdRIdRAdWUdWOdWE",
  "dWEEdWIdWAdHWUdHWOdHWEdHWEEdHWIdHWAdTHUdTHOdTHEdTHEEdTHIdTHAdTTUdTTOdTTEdTTEEdTTIdTTAdPUdPOdPE",
  "dPEEdPIdPAdPdGUdGOdGEdGEEdGIdGAdKHUdKHOdKHEdKHEEdKHIdKHAdKKUdKKOdKKEdKKEEdKKIdKKAdKKdNUdNOdNE",
  "dNEEdNIdNAdMUdMOdMEdMEEdMIdMAdYUdYOdYEdYEEdYIdYAdJUcSAYISI JUcCARRIER JOdJEdJEEdJIcSAYISI JI",
  "cCARRIER JAdJJUdJJOdJJEdJJEEdJJIdJJAdLUdLOdLEdLEEdLIdLAdDLUdDLOdDLEdDLEEdDLIdDLAdLHUdLHOdLHE",
  "dLHEEdLHIdLHAdTLHUdTLHOdTLHEdTLHEEdTLHIdTLHAdTLUdTLOdTLEdTLEEdTLIdTLAdZUdZOdZEdZEEdZIdZAdZ",
  "dINITIAL ZdDZUdDZOdDZEdDZEEdDZIdDZAdSUdSOdSEdSEEdSIdSAdSHUdSHOdSHEdSHEEdSHIdSHAdSHdTSUdTSOdTSE",
  "dTSEEdTSIdTSAdCHUdCHOdCHEdCHEEdCHIdCHAdTTSUdTTSOdTTSEdTTSEEdTTSIdTTSAcCHI SIGNcFULL STOPcQAI",
  "cNGAIcNNGIcNNGIIcNNGOcNNGOOcNNGAcNNGAAcWOODS-CREE THWEEdTHWIdTHWIIdTHWOdTHWOOdTHWAdTHWAA",
  "dFINAL THcBLACKFOOT WaOGHAM SPACE MARKbLETTER BEITHcLUIScFEARNcSAILcNIONcUATHcDAIRcTINNEcCOLL",
  "cCEIRTcMUINcGORTcNGEADALcSTRAIFcRUIScAILMcONNcURcEADHADHcIODHADHcEABHADHcORcUILLEANNcIFIN",
  "cEAMHANCHOLLcPEITHbFEATHER MARKbREVERSED FEATHER MARK.16A0aRUNIC LETTER FEHU FEOH FE FcV",
  "cURUZ UR UcYRcYcWcTHURISAZ THURS THORNcETHcANSUZ AcOS OcAC AcAESCcLONG-BRANCH-OSS O",
  "cSHORT-TWIG-OSS OcOcOEcONcRAIDO RAD REID RcKAUNAcCENcKAUN KcGcENGcGEBO GYFU GcGARcWUNJO WYNN W",
  "cHAGLAZ HcHAEGL HcLONG-BRANCH-HAGALL HcSHORT-TWIG-HAGALL HcNAUDIZ NYD NAUD NcSHORT-TWIG-NAUD N",
  "cDOTTED-NcISAZ IS ISS IcEcJERAN JcGERcLONG-BRANCH-AR AEcSHORT-TWIG-AR AcIWAZ EOH",
  "cPERTHO PEORTH PcALGIZ EOLHXcSOWILO ScSIGEL LONG-BRANCH-SOL ScSHORT-TWIG-SOL ScCcZ",
  "cTIWAZ TIR TYR TcSHORT-TWIG-TYR TcDcBERKANAN BEORC BJARKAN BcSHORT-TWIG-BJARKAN BcDOTTED-P",
  "cOPEN-PcEHWAZ EH EcMANNAZ MAN McLONG-BRANCH-MADR McSHORT-TWIG-MADR McLAUKAZ LAGU LOGR L",
  "cDOTTED-LcINGWAZcINGcDAGAZ DAEG DcOTHALAN ETHEL OcEARcIORcCWEORTHcCALCcCEALCcSTAN",
  "cLONG-BRANCH-YRcSHORT-TWIG-YRcICELANDIC-YRcQcXbSINGLE PUNCTUATIONbMULTIPLE PUNCTUATION",
  "bCROSS PUNCTUATIONbARLAUG SYMBOLbTVIMADUR SYMBOLbBELGTHOR SYMBOLbLETTER KcSHcOO",
  "cFRANKS CASKET OSeISeEHeACeAESC.1700aTAGALOG LETTER AcIcUcKAcGAcNGAcTAcDAcNAcPAcBAcMAcYAcRAcLA",
  "cWAcSAcHAbVOWEL SIGN IdUbSIGN VIRAMAcPAMUDPOD.171FbLETTER ARCHAIC RAaHANUNOO LETTER AcIcUcKA",
  "cGAcNGAcTAcDAcNAcPAcBAcMAcYAcRAcLAcWAcSAcHAbVOWEL SIGN IdUbSIGN PAMUDPOD",
  "aPHILIPPINE SINGLE PUNCTUATIONbDOUBLE PUNCTUATION.1740aBUHID LETTER AcIcUcKAcGAcNGAcTAcDAcNA",
  "cPAcBAcMAcYAcRAcLAcWAcSAcHAbVOWEL SIGN IdU.1760aTAGBANWA LETTER AcIcUcKAcGAcNGAcTAcDAcNAcPAcBA",
  "cMAcYA.176EcLAcWAcSA.1772bVOWEL SIGN IdU.1780aKHMER LETTER KAcKHAcKOcKHOcNGOcCAcCHAcCOcCHOcNYO",
  "cDAcTTHAcDOcTTHOcNNOcTAcTHAcTOcTHOcNOcBAcPHAcPOcPHOcMOcYOcROcLOcVOcSHAcSSOcSAcHAcLAcQA",
  "bINDEPENDENT VOWEL QAQdQAAdQIdQIIdQUdQUKdQUUdQUUVdRYdRYYdLYdLYYdQEdQAIdQOO TYPE ONEfTWOdQAU",
  "bVOWEL INHERENT AQdAAcSIGN AAdIdIIdYdYYdUdUUdUAdOEdYAdIEdEdAEdAIdOOdAUbSIGN NIKAHITcREAHMUK",
  "cYUUKALEAPINTUcMUUSIKATOANcTRIISAPcBANTOCcROBATcTOANDAKHIATcKAKABATcAHSDAcSAMYOK SANNYAcVIRIAM",
  "cCOENGcBATHAMASATcKHANcBARIYOOSANcCAMNUC PII KUUHcLEK TOOcBEYYALcPHNAEK MUANcKOOMUUT",
  "bCURRENCY SYMBOL RIELbSIGN AVAKRAHASANYAcATTHACAN.17E0bDIGIT ZEROcONEcTWOcTHREEcFOURcFIVEcSIX",
  "cSEVENcEIGHTcNINE.17F0bSYMBOL LEK ATTAK SONeMUOYePIIeBEIeBUONePRAMePRAM-MUOYePRAM-PIIePRAM-BEI",
  "ePRAM-BUON.1800aMONGOLIAN BIRGAbELLIPSISbCOMMAbFULL STOPbCOLONbFOUR DOTSbTODO SOFT HYPHEN",
  "bSIBE SYLLABLE BOUNDARY MARKERbMANCHU COMMAcFULL STOPbNIRUGUbFREE VARIATION SELECTOR ONEeTWO",
  "eTHREEbVOWEL SEPARATORbFREE VARIATION SELECTOR FOURbDIGIT ZEROcONEcTWOcTHREEcFOURcFIVEcSIX",
  "cSEVENcEIGHTcNINE.1820bLETTER AcEcIcOcUcOEcUEcEEcNAcANGcBAcPAcQAcGAcMAcLAcSAcSHAcTAcDAcCHAcJA",
  "cYAcRAcWAcFAcKAcKHAcTSAcZAcHAAcZRAcLHAcZHIcCHIcTODO LONG VOWEL SIGNdEdIdOdUdOEdUEdANGdBAdPAdQA",
  "dGAdMAdTAdDAdCHAdJAdTSAdYAdWAdKAdGAAdHAAdJIAdNIAdDZAcSIBE EdIdIYdUEdUdANGdKAdGAdHAdPAdSHAdTA",
  "dDAdJAdFAdGAAdHAAdTSAdZAdRAAdCHAdZHAcMANCHU IdKAdRAdFAdZHAcCHA WITH TWO DOTS",
  ".1880cALI GALI ANUSVARA ONEeVISARGA ONEeDAMARUeUBADAMAeINVERTED UBADAMAeBALUDAeTHREE BALUDAeA",
  "eIeKAeNGAeCAeTTAeTTHAeDDAeNNAeTAeDAePAePHAeSSAeZHAeZAeAHcTODO ALI GALI TAfZHA",
  "cMANCHU ALI GALI GHAfNGAfCAfJHAfTTAfDDHAfTAfDHAfSSAfCYAfZHAfZAcALI GALI HALF UfYA",
  "cMANCHU ALI GALI BHAcALI GALI DAGALGAcMANCHU ALI GALI LHA.18B0aCANADIAN SYLLABICS OYcAYcAAY",
  "cWAYcPOYcPAYcPWOYcTAYcKAYcKWAYcMAYcNOYcNAYcLAYcSOYcSAYcSHOYcSHAYcSHWOYcYOYcYAYcRAYcNWI",
  "cOJIBWAY NWIcNWIIcOJIBWAY NWIIcNWOcOJIBWAY NWOcNWOOcOJIBWAY NWOOcRWEEcRWIcRWIIcRWOcRWOOcRWA",
  "cOJIBWAY PdTdKdCdMdNdSdSHcEASTERN WcWESTERN WcFINAL SMALL RINGdRAISED DOTcR-CREE RWE",
  "cWEST-CREE LOOdLAAcTHWEcTHWAcTTHWEcTTHOOcTTHAAcTLHWEcTLHOOcSAYISI SHWEdSHOOdHOOcCARRIER GWU",
  "dDENE GEEdGAAdGWAcSAYISI JUUcCARRIER JWAcBEAVER DENE LeRcCARRIER DENTAL S",
  ".1900aLIMBU VOWEL-CARRIER LETTERbLETTER KAcKHAcGAcGHAcNGAcCAcCHAcJAcJHAcYANcTAcTHAcDAcDHAcNA",
  "cPAcPHAcBAcBHAcMAcYAcRAcLAcWAcSHAcSSAcSAcHAcGYANcTRA.1920bVOWEL SIGN AdIdUdEEdAIdOOdAUdEdO",
  "bSUBJOINED LETTER YAdRAdWA.1930bSMALL LETTER KAdNGAdANUSVARAdTAdNAdPAdMAdRAdLAbSIGN MUKPHRENG",
  "cKEMPHRENGcSA-I.1940cLOO.1944bEXCLAMATION MARKbQUESTION MARKbDIGIT ZEROcONEcTWOcTHREEcFOUR",
  "cFIVEcSIXcSEVENcEIGHTcNINEaTAI LE LETTER KAdXAdNGAdTSAdSAdYAdTAdTHAdLAdPAdPHAdMAdFAdVAdHAdQA",
  "dKHAdTSHAdNAdAdIdEEdEHdUdOOdOdUEdEdAUEdAI.1970dTONE-2dTONE-3dTONE-4dTONE-5dTONE-6",
  ".1980aNEW TAI LUE LETTER HIGH QAeLOW QAeHIGH KAfXAfNGAeLOW KAfXAfNGAeHIGH TSAfSAfYAeLOW TSAfSA",
  "fYAeHIGH TAfTHAfNAeLOW TAfTHAfNAeHIGH PAfPHAfMAeLOW PAfPHAfMAeHIGH FAfVAfLAeLOW FAfVAfLA",
  "eHIGH HAfDAfBAeLOW HAfDAfBAeHIGH KVAfXVAeLOW KVAfXVAeHIGH SUAeLOW SUA",
  ".19B0dVOWEL SIGN VOWEL SHORTENERfAAfIIfUfUUfEfAEfOfOAfUEfAYfAAYfUYfOYfOAYfUEYfIY",
  "dLETTER FINAL VfNGfNfMfKfDfBdTONE MARK-1eMARK-2.19D0dDIGIT ZEROeONEeTWOeTHREEeFOUReFIVEeSIX",
  "eSEVENeEIGHTeNINEdTHAM DIGIT ONE.19DEdSIGN LAEeLAEVaKHMER SYMBOL PATHAMASATcMUOY KOETcPII KOET",
  "cBEI KOETcBUON KOETcPRAM KOETcPRAM-MUOY KOETcPRAM-PII KOETcPRAM-BEI KOETcPRAM-BUON KOET",
  "cDAP KOETcDAP-MUOY KOETcDAP-PII KOETcDAP-BEI KOETcDAP-BUON KOETcDAP-PRAM KOETcTUTEYASAT",
  "cMUOY ROCcPII ROCcBEI ROCcBUON ROCcPRAM ROCcPRAM-MUOY ROCcPRAM-PII ROCcPRAM-BEI ROC",
  "cPRAM-BUON ROCcDAP ROCcDAP-MUOY ROCcDAP-PII ROCcDAP-BEI ROCcDAP-BUON ROCcDAP-PRAM ROC",
  "aBUGINESE LETTER KAcGAcNGAcNGKAcPAcBAcMAcMPAcTAcDAcNAcNRAcCAcJAcNYAcNYCAcYAcRAcLAcVAcSAcAcHA",
  "bVOWEL SIGN IdUdEdOdAE.1A1EbPALLAWAbEND OF SECTIONaTAI THAM LETTER HIGH KAeKHAeKXAdLOW KAeKXA",
  "eKHAdNGAdHIGH CAeCHAdLOW CAeSAeCHAdNYAdRATAdHIGH RATHAdDAdLOW RATHAdRANAdHIGH TAeTHAdLOW TA",
  "eTHAdNAdBAdHIGH PAePHAeFAdLOW PAeFAePHAdMAdLOW YAdHIGH YAdRAdRUEdLAdLUEdWAdHIGH SHAeSSAeSAeHA",
  "dLLAdAdLOW HAdIdIIdUdUUdEEdOOdLAEdGREAT SAcCONSONANT SIGN MEDIAL RAfLAeLA TANG LAI",
  "cSIGN MAI KANG LAIcCONSONANT SIGN FINAL NGAeLOW PAeHIGH RATHA OR LOW PAeMAeBAeSA",
  ".1A60cSIGN SAKOTcVOWEL SIGN AeMAI SATeAAeTALL AAeIeIIeUEeUUEeUeUUeOeOA BELOWeOYeEeAEeOOeAI",
  "eTHAM AIeOA ABOVEcSIGN MAI KANGdTONE-1dTONE-2dKHUEN TONE-3eTONE-4eTONE-5dRA HAAMdMAI SAM",
  "dKHUEN-LUE KARAN.1A7FcCOMBINING CRYPTOGRAMMIC DOTcHORA DIGIT ZEROeONEeTWOeTHREEeFOUReFIVEeSIX",
  "eSEVENeEIGHTeNINE.1A90cTHAM DIGIT ZEROeONEeTWOeTHREEeFOUReFIVEeSIXeSEVENeEIGHTeNINE",
  ".1AA0cSIGN WIANGdWIANGWAAKdSAWANdKEOWdHOYdDOKMAIdREVERSED ROTATED RANAdMAI YAMOKdKAANdKAANKUU",
  "dSATKAANdSATKAANKUUdHANGdCAANG.1AB0aCOMBINING DOUBLED CIRCUMFLEX ACCENTbDIAERESIS-RING",
  "bINFINITYbDOWNWARDS ARROWbTRIPLE DOTbX-X BELOWbWIGGLY LINE BELOWbOPEN MARK BELOW",
  "bDOUBLE OPEN MARK BELOWbLIGHT CENTRALIZATION STROKE BELOWbSTRONG CENTRALIZATION STROKE BELOW",
  "bPARENTHESES ABOVEbDOUBLE PARENTHESES ABOVEbPARENTHESES BELOWcOVERLAY",
  "bLATIN SMALL LETTER W BELOWeTURNED W BELOWbLEFT PARENTHESIS ABOVE LEFT",
  "bRIGHT PARENTHESIS ABOVE RIGHTbLEFT PARENTHESIS BELOW LEFTbRIGHT PARENTHESIS BELOW RIGHT",
  "bSQUARE BRACKETS ABOVEbNUMBER SIGN ABOVEbINVERTED DOUBLE ARCH ABOVEbPLUS SIGN ABOVE",
  "bDOUBLE PLUS SIGN ABOVEeBELOWbTRIPLE ACUTE ACCENTbLATIN SMALL LETTER INSULAR GfRfT",
  ".1B00aBALINESE SIGN ULU RICEMdCANDRAcCECEKcSURANGcBISAHbLETTER AKARAdTEDUNGcIKARAdTEDUNGcUKARA",
  "dTEDUNGcRA REPAeTEDUNGcLA LENGAeTEDUNGcEKARAcAIKARAcOKARAdTEDUNGcKAdMAHAPRANAcGAdGORAcNGAcCA",
  "dLACAcJAdJERAcNYAcTA LATIKdMURDA MAHAPRANAcDA MURDA ALPAPRANAeMAHAPRANAcNA RAMBATcTAdTAWAcDA",
  "dMADUcNAcPAdKAPALcBAdKEMBANGcMAcYAcRAcLAcWAcSA SAGAdSAPAdcHAbSIGN REREKANbVOWEL SIGN TEDUNG",
  "dULUeSARIdSUKUeILUTdRA REPAfTEDUNGdLA LENGAfTEDUNGdTALINGeREPAeTEDUNGeREPA TEDUNGdPEPETeTEDUNG",
  "bADEG ADEGbLETTER KAF SASAKcKHOT SASAKcTZIR SASAKcEF SASAKcVE SASAKcZAL SASAKcASYURA SASAK",
  "cARCHAIC JNYA.1B50bDIGIT ZEROcONEcTWOcTHREEcFOURcFIVEcSIXcSEVENcEIGHTcNINEbPANTIbPAMADAbWINDU",
  "bCARIK PAMUNGKAHcSIKIcPARERENbPAMENENGbMUSICAL SYMBOL DONGdDENGdDUNGdDANGeSURANGdDINGdDAENG",
  "dDEUNGdDAINGdDANG GEDEdCOMBINING TEGEHeENDEPeKEMPULeKEMPLIeJEGOGANeKEMPUL WITH JEGOGAN",
  "eKEMPLI WITH JEGOGANeBENDEeGONGdRIGHT-HAND OPEN DUGfDAGeCLOSED TUKfTAKdLEFT-HAND OPEN PANG",
  "fPUNGeCLOSED PLAKfPLUKeOPEN PINGbPANTI LANTANGbPAMADA LANTANG.1B80aSUNDANESE SIGN PANYECEK",
  "cPANGLAYARcPANGWISADbLETTER AcIcUcAEcOcEcEUcKAcQAcGAcNGAcCAcJAcZAcNYAcTAcDAcNAcPAcFAcVAcBAcMA",
  "cYAcRAcLAcWAcSAcXAcHAbCONSONANT SIGN PAMINGKALdPANYAKRAdPANYIKUbVOWEL SIGN PANGHULUdPANYUKU",
  "dPANAELAENGdPANOLONGdPAMEPETdPANEULEUNGbSIGN PAMAAEHcVIRAMAbCONSONANT SIGN PASANGAN MAeWA",
  "bLETTER KHAcSYAbDIGIT ZEROcONEcTWOcTHREEcFOURcFIVEcSIXcSEVENcEIGHTcNINEbAVAGRAHAbLETTER REU",
  "cLEUcBHAcFINAL KdMaBATAK LETTER AcSIMALUNGUN AcHAcSIMALUNGUN HAcMANDAILING HAcBAcKARO BAcPA",
  "cSIMALUNGUN PAcNAcMANDAILING NAcWAcSIMALUNGUN WAcPAKPAK WAcGAcSIMALUNGUN GAcJAcDAcRA",
  "cSIMALUNGUN RAcMAcSIMALUNGUN MAcSOUTHERN TAcNORTHERN TAcSAcSIMALUNGUN SAcMANDAILING SAcYA",
  "cSIMALUNGUN YAcNGAcLAcSIMALUNGUN LAcNYAcCAcNDAcMBAcIcUbSIGN TOMPIbVOWEL SIGN EdPAKPAK EdEEdI",
  "dKARO IdOdKARO OdUeFOR SIMALUNGUN SAbCONSONANT SIGN NGdHbPANGOLATbPANONGONAN",
  ".1BFCbSYMBOL BINDU NA METEKdPINARBORASdJUDULdPANGOLATaLEPCHA LETTER KAcKLAcKHAcGAcGLAcNGAcCA",
  "cCHAcJAcNYAcTAcTHAcDAcNAcPAcPLAcPHAcFAcFLAcBAcBLAcMAcMLAcTSAcTSHAcDZAcYAcRAcLAcHAcHLAcVAcSA",
  "cSHAcWAcAbSUBJOINED LETTER YAdRAbVOWEL SIGN AAdIdOdOOdUdUUdEbCONSONANT SIGN KdMdLdNdPdRdT",
  "dNYIN-DOdKANGbSIGN RANcNUKTA.1C3BbPUNCTUATION TA-ROLcNYET THYOOM TA-ROLcCER-WAcTSHOOK CER-WAd",
  "bDIGIT ZEROcONEcTWOcTHREEcFOURcFIVEcSIXcSEVENcEIGHTcNINE.1C4DbLETTER TTAcTTHAcDDA",
  "aOL CHIKI DIGIT ZEROdONEdTWOdTHREEdFOURdFIVEdSIXdSEVENdEIGHTdNINEcLETTER LAdATdAGdANGdALdLAA",
  "dAAKdAAJdAAMdAAWdLIdISdIHdINYdIRdLUdUCdUDdUNNdUYdLEdEPdEDDdENdERRdLOdOTTdOBdOVdOHcMU TTUDDAG",
  "cGAAHLAA TTUDDAAGcMU-GAAHLAA TTUDDAAGcRELAAcPHAARKAAcAHADcPUNCTUATION MUCAADdDOUBLE MUCAAD",
  "aCYRILLIC SMALL LETTER ROUNDED VEdLONG-LEGGED DEdNARROW OdWIDE ESdTALL TEdTHREE-LEGGED TE",
  "dTALL HARD SIGNeYATdUNBLENDED UK.1C90aGEORGIAN MTAVRULI CAPITAL LETTER ANeBANeGANeDONeENeVIN",
  "eZENeTANeINeKANeLASeMANeNAReONePAReZHAReRAEeSANeTAReUNePHAReKHAReGHANeQAReSHINeCHINeCANeJIL",
  "eCILeCHAReXANeJHANeHAEeHEeHIEeWEeHAReHOEeFIeYNeELIFIeTURNED GANeAIN.1CBDeAENeHARD SIGN",
  "eLABIAL SIGNaSUNDANESE PUNCTUATION BINDU SURYAdPANGLONGdPURNAMAdCAKRAdLEU SATANGAdKA SATANGA",
  "dDA SATANGAdBA SATANGA.1CD0aVEDIC TONE KARSHANAcSHARAcPRENKHAbSIGN NIHSHVASA",
  "cYAJURVEDIC MIDLINE SVARITAbTONE YAJURVEDIC AGGRAVATED INDEPENDENT SVARITAdINDEPENDENT SVARITA",
  "dKATHAKA INDEPENDENT SVARITAcCANDRA BELOWcYAJURVEDIC KATHAKA INDEPENDENT SVARITA SCHROEDER",
  "cDOUBLE SVARITAcTRIPLE SVARITAcKATHAKA ANUDATTAcDOT BELOWcTWO DOTS BELOWcTHREE DOTS BELOW",
  "cRIGVEDIC KASHMIRI INDEPENDENT SVARITAcATHARVAVEDIC INDEPENDENT SVARITAbSIGN VISARGA SVARITA",
  "dUDATTAcREVERSED VISARGA UDATTAcVISARGA ANUDATTAcREVERSED VISARGA ANUDATTA",
  "cVISARGA UDATTA WITH TAILdANUDATTA WITH TAILcANUSVARA ANTARGOMUKHAdBAHIRGOMUKHAdVAMAGOMUKHA",
  "eWITH TAILcTIRYAKcHEXIFORM LONG ANUSVARAcLONG ANUSVARAcRTHANG LONG ANUSVARA",
  "cANUSVARA UBHAYATO MUKHAcARDHAVISARGAcROTATED ARDHAVISARGAbTONE CANDRA ABOVEbSIGN JIHVAMULIYA",
  "cUPADHMANIYAcATIKRAMAbTONE RING ABOVEcDOUBLE RING ABOVEbSIGN DOUBLE ANUSVARA ANTARGOMUKHA",
  ".1D00aLATIN LETTER SMALL CAPITAL AeAEbSMALL LETTER TURNED AEbLETTER SMALL CAPITAL BARRED BeCeD",
  "eETHeEbSMALL LETTER TURNED OPEN EeIbLETTER SMALL CAPITAL JeKeL WITH STROKEeMeREVERSED NeO",
  "eOPEN ObSMALL LETTER SIDEWAYS OeOPEN OeO WITH STROKEdTURNED OEbLETTER SMALL CAPITAL OU",
  "bSMALL LETTER TOP HALF OdBOTTOM HALF ObLETTER SMALL CAPITAL PeREVERSED ReTURNED ReTeU",
  "bSMALL LETTER SIDEWAYS UeDIAERESIZED UeTURNED MbLETTER SMALL CAPITAL VeWeZeEZH",
  "cVOICED LARYNGEAL SPIRANTcAINaGREEK LETTER SMALL CAPITAL GAMMAeLAMDAePIeRHOePSI",
  "aCYRILLIC LETTER SMALL CAPITAL ELaMODIFIER LETTER CAPITAL AdAEdBdBARRED BdDdEdREVERSED EdGdHdI",
  "dJdKdLdMdNdREVERSED NdOdOUdPdRdTdUdWcSMALL AdTURNED AdALPHAdTURNED AEdBdDdEdSCHWAdOPEN E",
  "dTURNED OPEN EdGdTURNED IdKdMdENGdOdOPEN OdTOP HALF OdBOTTOM HALF OdPdTdUdSIDEWAYS UdTURNED M",
  "dVdAINdBETAdGREEK GAMMAdDELTAdGREEK PHIdCHIaLATIN SUBSCRIPT SMALL LETTER IeReUeV",
  "aGREEK SUBSCRIPT SMALL LETTER BETAeGAMMAeRHOePHIeCHIaLATIN SMALL LETTER UEdB WITH MIDDLE TILDE",
  "dD WITH MIDDLE TILDEdF WITH MIDDLE TILDEdM WITH MIDDLE TILDEdN WITH MIDDLE TILDE",
  "dP WITH MIDDLE TILDEdR WITH MIDDLE TILDEfFISHHOOK AND MIDDLE TILDEdS WITH MIDDLE TILDE",
  "dT WITH MIDDLE TILDEdZ WITH MIDDLE TILDEdTURNED GaMODIFIER LETTER CYRILLIC EN",
  "aLATIN SMALL LETTER INSULAR GdTH WITH STRIKETHROUGHcCAPITAL LETTER I WITH STROKE",
  "cLETTER IOTA WITH STROKEdP WITH STROKEcCAPITAL LETTER U WITH STROKEcLETTER UPSILON WITH STROKE",
  "dB WITH PALATAL HOOKdD WITH PALATAL HOOKdF WITH PALATAL HOOKdG WITH PALATAL HOOK",
  "dK WITH PALATAL HOOKdL WITH PALATAL HOOKdM WITH PALATAL HOOKdN WITH PALATAL HOOK",
  "dP WITH PALATAL HOOKdR WITH PALATAL HOOKdS WITH PALATAL HOOKdESH WITH PALATAL HOOK",
  "dV WITH PALATAL HOOKdX WITH PALATAL HOOKdZ WITH PALATAL HOOKdA WITH RETROFLEX HOOK",
  "dALPHA WITH RETROFLEX HOOKdD WITH HOOK AND TAILdE WITH RETROFLEX HOOK",
  "dOPEN E WITH RETROFLEX HOOKdREVERSED OPEN E WITH RETROFLEX HOOKdSCHWA WITH RETROFLEX HOOK",
  "dI WITH RETROFLEX HOOKdOPEN O WITH RETROFLEX HOOKdESH WITH RETROFLEX HOOK",
  "dU WITH RETROFLEX HOOKdEZH WITH RETROFLEX HOOKaMODIFIER LETTER SMALL TURNED ALPHAdCeWITH CURL",
  "dETHdREVERSED OPEN EdFdDOTLESS J WITH STROKEdSCRIPT GdTURNED HdI WITH STROKEdIOTAdCAPITAL I",
  "fWITH STROKEdJ WITH CROSSED-TAILdL WITH RETROFLEX HOOKfPALATAL HOOKdCAPITAL LdM WITH HOOK",
  "dTURNED M WITH LONG LEGdN WITH LEFT HOOKfRETROFLEX HOOKdCAPITAL NdBARRED OdPHIdS WITH HOOKdESH",
  "dT WITH PALATAL HOOKdU BARdUPSILONdCAPITAL UdV WITH HOOKdTURNED VdZeWITH RETROFLEX HOOKfCURL",
  "dEZHdTHETAaCOMBINING DOTTED GRAVE ACCENTcACUTE ACCENTbSNAKE BELOWbSUSPENSION MARKbMACRON-ACUTE",
  "bGRAVE-MACRONbMACRON-GRAVEbACUTE-MACRONbGRAVE-ACUTE-GRAVEbACUTE-GRAVE-ACUTE",
  "bLATIN SMALL LETTER R BELOWbBREVE-MACRONbMACRON-BREVEbDOUBLE CIRCUMFLEX ABOVEbOGONEK ABOVE",
  "bZIGZAG BELOWbIS BELOWbUR ABOVEbUS ABOVEbLATIN SMALL LETTER FLATTENED OPEN A ABOVEeAEeAOeAV",
  "eC CEDILLAeINSULAR DeETHeGcLETTER SMALL CAPITAL GcSMALL LETTER KeLcLETTER SMALL CAPITAL LfM",
  "cSMALL LETTER NcLETTER SMALL CAPITAL NfRcSMALL LETTER R ROTUNDAeSeLONG SeZeALPHAeBeBETAeSCHWA",
  "eFeL WITH DOUBLE MIDDLE TILDEeO WITH LIGHT CENTRALIZATION STROKEePeESH",
  "eU WITH LIGHT CENTRALIZATION STROKEeWeA WITH DIAERESISeO WITH DIAERESISeU WITH DIAERESIS",
  "bUP TACK ABOVEbKAVYKA ABOVE RIGHTdLEFTbDOT ABOVE LEFTbWIDE INVERTED BRIDGE BELOW",
  "bDOT BELOW LEFTbDELETION MARKbDOUBLE INVERTED BREVE BELOWbALMOST EQUAL TO BELOW",
  "bLEFT ARROWHEAD ABOVEbRIGHT ARROWHEAD AND DOWN ARROWHEAD BELOW",
  "aLATIN CAPITAL LETTER A WITH RING BELOWbSMALL LETTER A WITH RING BELOW",
  "bCAPITAL LETTER B WITH DOT ABOVEbSMALL LETTER B WITH DOT ABOVEbCAPITAL LETTER B WITH DOT BELOW",
  "bSMALL LETTER B WITH DOT BELOWbCAPITAL LETTER B WITH LINE BELOWbSMALL LETTER B WITH LINE BELOW",
  "bCAPITAL LETTER C WITH CEDILLA AND ACUTEbSMALL LETTER C WITH CEDILLA AND ACUTE",
  "bCAPITAL LETTER D WITH DOT ABOVEbSMALL LETTER D WITH DOT ABOVEbCAPITAL LETTER D WITH DOT BELOW",
  "bSMALL LETTER D WITH DOT BELOWbCAPITAL LETTER D WITH LINE BELOWbSMALL LETTER D WITH LINE BELOW",
  "bCAPITAL LETTER D WITH CEDILLAbSMALL LETTER D WITH CEDILLA",
  "bCAPITAL LETTER D WITH CIRCUMFLEX BELOWbSMALL LETTER D WITH CIRCUMFLEX BELOW",
  "bCAPITAL LETTER E WITH MACRON AND GRAVEbSMALL LETTER E WITH MACRON AND GRAVE",
  "bCAPITAL LETTER E WITH MACRON AND ACUTEbSMALL LETTER E WITH MACRON AND ACUTE",
  "bCAPITAL LETTER E WITH CIRCUMFLEX BELOWbSMALL LETTER E WITH CIRCUMFLEX BELOW",
  "bCAPITAL LETTER E WITH TILDE BELOWbSMALL LETTER E WITH TILDE BELOW",
  "bCAPITAL LETTER E WITH CEDILLA AND BREVEbSMALL LETTER E WITH CEDILLA AND BREVE",
  "bCAPITAL LETTER F WITH DOT ABOVEbSMALL LETTER F WITH DOT ABOVEbCAPITAL LETTER G WITH MACRON",
  "bSMALL LETTER G WITH MACRONbCAPITAL LETTER H WITH DOT ABOVEbSMALL LETTER H WITH DOT ABOVE",
  "bCAPITAL LETTER H WITH DOT BELOWbSMALL LETTER H WITH DOT BELOWbCAPITAL LETTER H WITH DIAERESIS",
  "bSMALL LETTER H WITH DIAERESISbCAPITAL LETTER H WITH CEDILLAbSMALL LETTER H WITH CEDILLA",
  "bCAPITAL LETTER H WITH BREVE BELOWbSMALL LETTER H WITH BREVE BELOW",
  "bCAPITAL LETTER I WITH TILDE BELOWbSMALL LETTER I WITH TILDE BELOW",
  "bCAPITAL LETTER I WITH DIAERESIS AND ACUTEbSMALL LETTER I WITH DIAERESIS AND ACUTE",
  "bCAPITAL LETTER K WITH ACUTEbSMALL LETTER K WITH ACUTEbCAPITAL LETTER K WITH DOT BELOW",
  "bSMALL LETTER K WITH DOT BELOWbCAPITAL LETTER K WITH LINE BELOWbSMALL LETTER K WITH LINE BELOW",
  "bCAPITAL LETTER L WITH DOT BELOWbSMALL LETTER L WITH DOT BELOW",
  "bCAPITAL LETTER L WITH DOT BELOW AND MACRONbSMALL LETTER L WITH DOT BELOW AND MACRON",
  "bCAPITAL LETTER L WITH LINE BELOWbSMALL LETTER L WITH LINE BELOW",
  "bCAPITAL LETTER L WITH CIRCUMFLEX BELOWbSMALL LETTER L WITH CIRCUMFLEX BELOW",
  "bCAPITAL LETTER M WITH ACUTEbSMALL LETTER M WITH ACUTEbCAPITAL LETTER M WITH DOT ABOVE",
  "bSMALL LETTER M WITH DOT ABOVEbCAPITAL LETTER M WITH DOT BELOWbSMALL LETTER M WITH DOT BELOW",
  "bCAPITAL LETTER N WITH DOT ABOVEbSMALL LETTER N WITH DOT ABOVEbCAPITAL LETTER N WITH DOT BELOW",
  "bSMALL LETTER N WITH DOT BELOWbCAPITAL LETTER N WITH LINE BELOWbSMALL LETTER N WITH LINE BELOW",
  "bCAPITAL LETTER N WITH CIRCUMFLEX BELOWbSMALL LETTER N WITH CIRCUMFLEX BELOW",
  "bCAPITAL LETTER O WITH TILDE AND ACUTEbSMALL LETTER O WITH TILDE AND ACUTE",
  "bCAPITAL LETTER O WITH TILDE AND DIAERESISbSMALL LETTER O WITH TILDE AND DIAERESIS",
  "bCAPITAL LETTER O WITH MACRON AND GRAVEbSMALL LETTER O WITH MACRON AND GRAVE",
  "bCAPITAL LETTER O WITH MACRON AND ACUTEbSMALL LETTER O WITH MACRON AND ACUTE",
  "bCAPITAL LETTER P WITH ACUTEbSMALL LETTER P WITH ACUTEbCAPITAL LETTER P WITH DOT ABOVE",
  "bSMALL LETTER P WITH DOT ABOVEbCAPITAL LETTER R WITH DOT ABOVEbSMALL LETTER R WITH DOT ABOVE",
  "bCAPITAL LETTER R WITH DOT BELOWbSMALL LETTER R WITH DOT BELOW",
  "bCAPITAL LETTER R WITH DOT BELOW AND MACRONbSMALL LETTER R WITH DOT BELOW AND MACRON",
  "bCAPITAL LETTER R WITH LINE BELOWbSMALL LETTER R WITH LINE BELOW",
  "bCAPITAL LETTER S WITH DOT ABOVEbSMALL LETTER S WITH DOT ABOVEbCAPITAL LETTER S WITH DOT BELOW",
  "bSMALL LETTER S WITH DOT BELOWbCAPITAL LETTER S WITH ACUTE AND DOT ABOVE",
  "bSMALL LETTER S WITH ACUTE AND DOT ABOVEbCAPITAL LETTER S WITH CARON AND DOT ABOVE",
  "bSMALL LETTER S WITH CARON AND DOT ABOVEbCAPITAL LETTER S WITH DOT BELOW AND DOT ABOVE",
  "bSMALL LETTER S WITH DOT BELOW AND DOT ABOVEbCAPITAL LETTER T WITH DOT ABOVE",
  "bSMALL LETTER T WITH DOT ABOVEbCAPITAL LETTER T WITH DOT BELOWbSMALL LETTER T WITH DOT BELOW",
  "bCAPITAL LETTER T WITH LINE BELOWbSMALL LETTER T WITH LINE BELOW",
  "bCAPITAL LETTER T WITH CIRCUMFLEX BELOWbSMALL LETTER T WITH CIRCUMFLEX BELOW",
  "bCAPITAL LETTER U WITH DIAERESIS BELOWbSMALL LETTER U WITH DIAERESIS BELOW",
  "bCAPITAL LETTER U WITH TILDE BELOWbSMALL LETTER U WITH TILDE BELOW",
  "bCAPITAL LETTER U WITH CIRCUMFLEX BELOWbSMALL LETTER U WITH CIRCUMFLEX BELOW",
  "bCAPITAL LETTER U WITH TILDE AND ACUTEbSMALL LETTER U WITH TILDE AND ACUTE",
  "bCAPITAL LETTER U WITH MACRON AND DIAERESISbSMALL LETTER U WITH MACRON AND DIAERESIS",
  "bCAPITAL LETTER V WITH TILDEbSMALL LETTER V WITH TILDEbCAPITAL LETTER V WITH DOT BELOW",
  "bSMALL LETTER V WITH DOT BELOWbCAPITAL LETTER W WITH GRAVEbSMALL LETTER W WITH GRAVE",
  "bCAPITAL LETTER W WITH ACUTEbSMALL LETTER W WITH ACUTEbCAPITAL LETTER W WITH DIAERESIS",
  "bSMALL LETTER W WITH DIAERESISbCAPITAL LETTER W WITH DOT ABOVEbSMALL LETTER W WITH DOT ABOVE",
  "bCAPITAL LETTER W WITH DOT BELOWbSMALL LETTER W WITH DOT BELOWbCAPITAL LETTER X WITH DOT ABOVE",
  "bSMALL LETTER X WITH DOT ABOVEbCAPITAL LETTER X WITH DIAERESISbSMALL LETTER X WITH DIAERESIS",
  "bCAPITAL LETTER Y WITH DOT ABOVEbSMALL LETTER Y WITH DOT ABOVE",
  "bCAPITAL LETTER Z WITH CIRCUMFLEXbSMALL LETTER Z WITH CIRCUMFLEX",
  "bCAPITAL LETTER Z WITH DOT BELOWbSMALL LETTER Z WITH DOT BELOW",
  "bCAPITAL LETTER Z WITH LINE BELOWbSMALL LETTER Z WITH LINE BELOWdH WITH LINE BELOW",
  "dT WITH DIAERESISdW WITH RING ABOVEdY WITH RING ABOVEdA WITH RIGHT HALF RING",
  "dLONG S WITH DOT ABOVEgDIAGONAL STROKEgHIGH STROKEbCAPITAL LETTER SHARP SbSMALL LETTER DELTA",
  "bCAPITAL LETTER A WITH DOT BELOWbSMALL LETTER A WITH DOT BELOW",
  "bCAPITAL LETTER A WITH HOOK ABOVEbSMALL LETTER A WITH HOOK ABOVE",
  "bCAPITAL LETTER A WITH CIRCUMFLEX AND ACUTEbSMALL LETTER A WITH CIRCUMFLEX AND ACUTE",
  "bCAPITAL LETTER A WITH CIRCUMFLEX AND GRAVEbSMALL LETTER A WITH CIRCUMFLEX AND GRAVE",
  "bCAPITAL LETTER A WITH CIRCUMFLEX AND HOOK ABOVEbSMALL LETTER A WITH CIRCUMFLEX AND HOOK ABOVE",
  "bCAPITAL LETTER A WITH CIRCUMFLEX AND TILDEbSMALL LETTER A WITH CIRCUMFLEX AND TILDE",
  "bCAPITAL LETTER A WITH CIRCUMFLEX AND DOT BELOWbSMALL LETTER A WITH CIRCUMFLEX AND DOT BELOW",
  "bCAPITAL LETTER A WITH BREVE AND ACUTEbSMALL LETTER A WITH BREVE AND ACUTE",
  "bCAPITAL LETTER A WITH BREVE AND GRAVEbSMALL LETTER A WITH BREVE AND GRAVE",
  "bCAPITAL LETTER A WITH BREVE AND HOOK ABOVEbSMALL LETTER A WITH BREVE AND HOOK ABOVE",
  "bCAPITAL LETTER A WITH BREVE AND TILDEbSMALL LETTER A WITH BREVE AND TILDE",
  "bCAPITAL LETTER A WITH BREVE AND DOT BELOWbSMALL LETTER A WITH BREVE AND DOT BELOW",
  "bCAPITAL LETTER E WITH DOT BELOWbSMALL LETTER E WITH DOT BELOW",
  "bCAPITAL LETTER E WITH HOOK ABOVEbSMALL LETTER E WITH HOOK ABOVEbCAPITAL LETTER E WITH TILDE",
  "bSMALL LETTER E WITH TILDEbCAPITAL LETTER E WITH CIRCUMFLEX AND ACUTE",
  "bSMALL LETTER E WITH CIRCUMFLEX AND ACUTEbCAPITAL LETTER E WITH CIRCUMFLEX AND GRAVE",
  "bSMALL LETTER E WITH CIRCUMFLEX AND GRAVEbCAPITAL LETTER E WITH CIRCUMFLEX AND HOOK ABOVE",
  "bSMALL LETTER E WITH CIRCUMFLEX AND HOOK ABOVEbCAPITAL LETTER E WITH CIRCUMFLEX AND TILDE",
  "bSMALL LETTER E WITH CIRCUMFLEX AND TILDEbCAPITAL LETTER E WITH CIRCUMFLEX AND DOT BELOW",
  "bSMALL LETTER E WITH CIRCUMFLEX AND DOT BELOWbCAPITAL LETTER I WITH HOOK ABOVE",
  "bSMALL LETTER I WITH HOOK ABOVEbCAPITAL LETTER I WITH DOT BELOWbSMALL LETTER I WITH DOT BELOW",
  "bCAPITAL LETTER O WITH DOT BELOWbSMALL LETTER O WITH DOT BELOW",
  "bCAPITAL LETTER O WITH HOOK ABOVEbSMALL LETTER O WITH HOOK ABOVE",
  "bCAPITAL LETTER O WITH CIRCUMFLEX AND ACUTEbSMALL LETTER O WITH CIRCUMFLEX AND ACUTE",
  "bCAPITAL LETTER O WITH CIRCUMFLEX AND GRAVEbSMALL LETTER O WITH CIRCUMFLEX AND GRAVE",
  "bCAPITAL LETTER O WITH CIRCUMFLEX AND HOOK ABOVEbSMALL LETTER O WITH CIRCUMFLEX AND HOOK ABOVE",
  "bCAPITAL LETTER O WITH CIRCUMFLEX AND TILDEbSMALL LETTER O WITH CIRCUMFLEX AND TILDE",
  "bCAPITAL LETTER O WITH CIRCUMFLEX AND DOT BELOWbSMALL LETTER O WITH CIRCUMFLEX AND DOT BELOW",
  "bCAPITAL LETTER O WITH HORN AND ACUTEbSMALL LETTER O WITH HORN AND ACUTE",
  "bCAPITAL LETTER O WITH HORN AND GRAVEbSMALL LETTER O WITH HORN AND GRAVE",
  "bCAPITAL LETTER O WITH HORN AND HOOK ABOVEbSMALL LETTER O WITH HORN AND HOOK ABOVE",
  "bCAPITAL LETTER O WITH HORN AND TILDEbSMALL LETTER O WITH HORN AND TILDE",
  "bCAPITAL LETTER O WITH HORN AND DOT BELOWbSMALL LETTER O WITH HORN AND DOT BELOW",
  "bCAPITAL LETTER U WITH DOT BELOWbSMALL LETTER U WITH DOT BELOW",
  "bCAPITAL LETTER U WITH HOOK ABOVEbSMALL LETTER U WITH HOOK ABOVE",
  "bCAPITAL LETTER U WITH HORN AND ACUTEbSMALL LETTER U WITH HORN AND ACUTE",
  "bCAPITAL LETTER U WITH HORN AND GRAVEbSMALL LETTER U WITH HORN AND GRAVE",
  "bCAPITAL LETTER U WITH HORN AND HOOK ABOVEbSMALL LETTER U WITH HORN AND HOOK ABOVE",
  "bCAPITAL LETTER U WITH HORN AND TILDEbSMALL LETTER U WITH HORN AND TILDE",
  "bCAPITAL LETTER U WITH HORN AND DOT BELOWbSMALL LETTER U WITH HORN AND DOT BELOW",
  "bCAPITAL LETTER Y WITH GRAVEbSMALL LETTER Y WITH GRAVEbCAPITAL LETTER Y WITH DOT BELOW",
  "bSMALL LETTER Y WITH DOT BELOWbCAPITAL LETTER Y WITH HOOK ABOVEbSMALL LETTER Y WITH HOOK ABOVE",
  "bCAPITAL LETTER Y WITH TILDEbSMALL LETTER Y WITH TILDEbCAPITAL LETTER MIDDLE-WELSH LL",
  "bSMALL LETTER MIDDLE-WELSH LLbCAPITAL LETTER MIDDLE-WELSH VbSMALL LETTER MIDDLE-WELSH V",
  "bCAPITAL LETTER Y WITH LOOPbSMALL LETTER Y WITH LOOPaGREEK SMALL LETTER ALPHA WITH PSILIfDASIA",
  "fPSILI AND VARIAfDASIA AND VARIAfPSILI AND OXIAfDASIA AND OXIAfPSILI AND PERISPOMENI",
  "fDASIA AND PERISPOMENIbCAPITAL LETTER ALPHA WITH PSILIfDASIAfPSILI AND VARIAfDASIA AND VARIA",
  "fPSILI AND OXIAfDASIA AND OXIAfPSILI AND PERISPOMENIfDASIA AND PERISPOMENI",
  "bSMALL LETTER EPSILON WITH PSILIfDASIAfPSILI AND VARIAfDASIA AND VARIAfPSILI AND OXIA",
  "fDASIA AND OXIA.1F18bCAPITAL LETTER EPSILON WITH PSILIfDASIAfPSILI AND VARIAfDASIA AND VARIA",
  "fPSILI AND OXIAfDASIA AND OXIA.1F20bSMALL LETTER ETA WITH PSILIfDASIAfPSILI AND VARIA",
  "fDASIA AND VARIAfPSILI AND OXIAfDASIA AND OXIAfPSILI AND PERISPOMENIfDASIA AND PERISPOMENI",
  "bCAPITAL LETTER ETA WITH PSILIfDASIAfPSILI AND VARIAfDASIA AND VARIAfPSILI AND OXIA",
  "fDASIA AND OXIAfPSILI AND PERISPOMENIfDASIA AND PERISPOMENIbSMALL LETTER IOTA WITH PSILIfDASIA",
  "fPSILI AND VARIAfDASIA AND VARIAfPSILI AND OXIAfDASIA AND OXIAfPSILI AND PERISPOMENI",
  "fDASIA AND PERISPOMENIbCAPITAL LETTER IOTA WITH PSILIfDASIAfPSILI AND VARIAfDASIA AND VARIA",
  "fPSILI AND OXIAfDASIA AND OXIAfPSILI AND PERISPOMENIfDASIA AND PERISPOMENI",
  "bSMALL LETTER OMICRON WITH PSILIfDASIAfPSILI AND VARIAfDASIA AND VARIAfPSILI AND OXIA",
  "fDASIA AND OXIA.1F48bCAPITAL LETTER OMICRON WITH PSILIfDASIAfPSILI AND VARIAfDASIA AND VARIA",
  "fPSILI AND OXIAfDASIA AND OXIA.1F50bSMALL LETTER UPSILON WITH PSILIfDASIAfPSILI AND VARIA",
  "fDASIA AND VARIAfPSILI AND OXIAfDASIA AND OXIAfPSILI AND PERISPOMENIfDASIA AND PERISPOMENI",
  ".1F59bCAPITAL LETTER UPSILON WITH DASIA.1F5BgAND VARIA.1F5DhOXIA.1F5FhPERISPOMENI",
  "bSMALL LETTER OMEGA WITH PSILIfDASIAfPSILI AND VARIAfDASIA AND VARIAfPSILI AND OXIA",
  "fDASIA AND OXIAfPSILI AND PERISPOMENIfDASIA AND PERISPOMENIbCAPITAL LETTER OMEGA WITH PSILI",
  "fDASIAfPSILI AND VARIAfDASIA AND VARIAfPSILI AND OXIAfDASIA AND OXIAfPSILI AND PERISPOMENI",
  "fDASIA AND PERISPOMENIbSMALL LETTER ALPHA WITH VARIAfOXIAdEPSILON WITH VARIAfOXIA",
  "dETA WITH VARIAfOXIAdIOTA WITH VARIAfOXIAdOMICRON WITH VARIAfOXIAdUPSILON WITH VARIAfOXIA",
  "dOMEGA WITH VARIAfOXIA.1F80dALPHA WITH PSILI AND YPOGEGRAMMENIfDASIA AND YPOGEGRAMMENI",
  "fPSILI AND VARIA AND YPOGEGRAMMENIfDASIA AND VARIA AND YPOGEGRAMMENI",
  "fPSILI AND OXIA AND YPOGEGRAMMENIfDASIA AND OXIA AND YPOGEGRAMMENI",
  "fPSILI AND PERISPOMENI AND YPOGEGRAMMENIfDASIA AND PERISPOMENI AND YPOGEGRAMMENI",
  "bCAPITAL LETTER ALPHA WITH PSILI AND PROSGEGRAMMENIfDASIA AND PROSGEGRAMMENI",
  "fPSILI AND VARIA AND PROSGEGRAMMENIfDASIA AND VARIA AND PROSGEGRAMMENI",
  "fPSILI AND OXIA AND PROSGEGRAMMENIfDASIA AND OXIA AND PROSGEGRAMMENI",
  "fPSILI AND PERISPOMENI AND PROSGEGRAMMENIfDASIA AND PERISPOMENI AND PROSGEGRAMMENI",
  "bSMALL LETTER ETA WITH PSILI AND YPOGEGRAMMENIfDASIA AND YPOGEGRAMMENI",
  "fPSILI AND VARIA AND YPOGEGRAMMENIfDASIA AND VARIA AND YPOGEGRAMMENI",
  "fPSILI AND OXIA AND YPOGEGRAMMENIfDASIA AND OXIA AND YPOGEGRAMMENI",
  "fPSILI AND PERISPOMENI AND YPOGEGRAMMENIfDASIA AND PERISPOMENI AND YPOGEGRAMMENI",
  "bCAPITAL LETTER ETA WITH PSILI AND PROSGEGRAMMENIfDASIA AND PROSGEGRAMMENI",
  "fPSILI AND VARIA AND PROSGEGRAMMENIfDASIA AND VARIA AND PROSGEGRAMMENI",
  "fPSILI AND OXIA AND PROSGEGRAMMENIfDASIA AND OXIA AND PROSGEGRAMMENI",
  "fPSILI AND PERISPOMENI AND PROSGEGRAMMENIfDASIA AND PERISPOMENI AND PROSGEGRAMMENI",
  "bSMALL LETTER OMEGA WITH PSILI AND YPOGEGRAMMENIfDASIA AND YPOGEGRAMMENI",
  "fPSILI AND VARIA AND YPOGEGRAMMENIfDASIA AND VARIA AND YPOGEGRAMMENI",
  "fPSILI AND OXIA AND YPOGEGRAMMENIfDASIA AND OXIA AND YPOGEGRAMMENI",
  "fPSILI AND PERISPOMENI AND YPOGEGRAMMENIfDASIA AND PERISPOMENI AND YPOGEGRAMMENI",
  "bCAPITAL LETTER OMEGA WITH PSILI AND PROSGEGRAMMENIfDASIA AND PROSGEGRAMMENI",
  "fPSILI AND VARIA AND PROSGEGRAMMENIfDASIA AND VARIA AND PROSGEGRAMMENI",
  "fPSILI AND OXIA AND PROSGEGRAMMENIfDASIA AND OXIA AND PROSGEGRAMMENI",
  "fPSILI AND PERISPOMENI AND PROSGEGRAMMENIfDASIA AND PERISPOMENI AND PROSGEGRAMMENI",
  "bSMALL LETTER ALPHA WITH VRACHYfMACRONfVARIA AND YPOGEGRAMMENIfYPOGEGRAMMENI",
  "fOXIA AND YPOGEGRAMMENI.1FB6fPERISPOMENIgAND YPOGEGRAMMENIbCAPITAL LETTER ALPHA WITH VRACHY",
  "fMACRONfVARIAfOXIAfPROSGEGRAMMENIbKORONISbPROSGEGRAMMENIbPSILIbPERISPOMENI",
  "bDIALYTIKA AND PERISPOMENIbSMALL LETTER ETA WITH VARIA AND YPOGEGRAMMENIfYPOGEGRAMMENI",
  "fOXIA AND YPOGEGRAMMENI.1FC6fPERISPOMENIgAND YPOGEGRAMMENIbCAPITAL LETTER EPSILON WITH VARIA",
  "fOXIAdETA WITH VARIAfOXIAfPROSGEGRAMMENIbPSILI AND VARIAdOXIAdPERISPOMENI",
  "bSMALL LETTER IOTA WITH VRACHYfMACRONfDIALYTIKA AND VARIAhOXIA.1FD6fPERISPOMENI",
  "fDIALYTIKA AND PERISPOMENIbCAPITAL LETTER IOTA WITH VRACHYfMACRONfVARIAfOXIA",
  ".1FDDbDASIA AND VARIAdOXIAdPERISPOMENIbSMALL LETTER UPSILON WITH VRACHYfMACRON",
  "fDIALYTIKA AND VARIAhOXIAdRHO WITH PSILIfDASIAdUPSILON WITH PERISPOMENI",
  "fDIALYTIKA AND PERISPOMENIbCAPITAL LETTER UPSILON WITH VRACHYfMACRONfVARIAfOXIAdRHO WITH DASIA",
  "bDIALYTIKA AND VARIAdOXIAbVARIA.1FF2bSMALL LETTER OMEGA WITH VARIA AND YPOGEGRAMMENI",
  "fYPOGEGRAMMENIfOXIA AND YPOGEGRAMMENI.1FF6fPERISPOMENIgAND YPOGEGRAMMENI",
  "bCAPITAL LETTER OMICRON WITH VARIAfOXIAdOMEGA WITH VARIAfOXIAfPROSGEGRAMMENIbOXIAbDASIA"]

end Literate.Text
