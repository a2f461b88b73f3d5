/-! Names of characters from U+10000 on, below U+12000: scripts of old and rare ones. -/

namespace Literate.Text

/-- each name behind what it shares with the one before -/
def ancientNames : List String := [
  ".10000aLINEAR B SYLLABLE B008 AdB038 EdB028 IdB061 OdB010 UdB001 DAdB045 DEdB007 DIdB014 DO",
  "dB051 DUdB057 JAdB046 JE.1000DdB036 JOdB065 JUdB077 KAdB044 KEdB067 KIdB070 KOdB081 KUdB080 MA",
  "dB013 MEdB073 MIdB015 MOdB023 MUdB006 NAdB024 NEdB030 NIdB052 NOdB055 NUdB003 PAdB072 PE",
  "dB039 PIdB011 POdB050 PUdB016 QAdB078 QEdB021 QIdB032 QO.10028dB060 RAdB027 REdB053 RIdB002 RO",
  "dB026 RUdB031 SAdB009 SEdB041 SIdB012 SOdB058 SUdB059 TAdB004 TEdB037 TIdB005 TOdB069 TU",
  "dB054 WAdB075 WEdB040 WIdB042 WO.1003CdB017 ZAdB074 ZE.1003FdB020 ZOdB025 A2dB043 A3dB085 AU",
  "dB071 DWEdB090 DWOdB048 NWAdB029 PU2dB062 PTEdB076 RA2dB033 RA3dB068 RO2dB066 TA2dB087 TWE",
  "dB091 TWO.10050cSYMBOL B018dB019dB022dB034dB047dB049dB056dB063dB064dB079dB082dB083dB086dB089",
  ".10080cIDEOGRAM B100 MANdB102 WOMANdB104 DEERdB105 EQUIDdB105F MAREdB105M STALLIONdB106F EWE",
  "dB106M RAMdB107F SHE-GOATdB107M HE-GOATdB108F SOWdB108M BOARdB109F COWdB109M BULLdB120 WHEAT",
  "dB121 BARLEYdB122 OLIVEdB123 SPICEdB125 CYPERUScMONOGRAM B127 KAPOdB128 KANAKO",
  "cIDEOGRAM B130 OILdB131 WINEdB132cMONOGRAM B133 AREPAdB135 MERIcIDEOGRAM B140 BRONZEdB141 GOLD",
  "dB142dB145 WOOLdB146dB150dB151 HORNdB152dB153dB154cMONOGRAM B156 TURO2cIDEOGRAM B157dB158",
  "dB159 CLOTHdB160dB161dB162 GARMENTdB163 ARMOURdB164dB165dB166dB167dB168dB169dB170dB171dB172",
  "dB173 MONTHdB174dB176 TREEdB177dB178dB179dB180dB181dB182dB183dB184dB185dB189dB190dB191 HELMET",
  "dB220 FOOTSTOOLdB225 BATHTUBdB230 SPEARdB231 ARROWdB232dB233 SWORDdB234dB236",
  "dB240 WHEELED CHARIOTdB241 CHARIOTdB242 CHARIOT FRAMEdB243 WHEELdB245dB246cMONOGRAM B247 DIPTE",
  "cIDEOGRAM B248dB249dB251dB252dB253dB254 DARTdB255dB256dB257dB258dB259dVESSEL B155eB200eB201",
  "eB202eB203eB204eB205eB206eB207eB208eB209eB210eB211eB212eB213eB214eB215eB216eB217eB218eB219",
  "eB221eB222eB226eB227eB228eB229eB250eB305.10100aAEGEAN WORD SEPARATOR LINEdDOTbCHECK MARK",
  ".10107bNUMBER ONEcTWOcTHREEcFOURcFIVEcSIXcSEVENcEIGHTcNINEcTENcTWENTYcTHIRTYcFORTYcFIFTYcSIXTY",
  "cSEVENTYcEIGHTYcNINETYcONE HUNDREDcTWO HUNDREDcTHREE HUNDREDcFOUR HUNDREDcFIVE HUNDRED",
  "cSIX HUNDREDcSEVEN HUNDREDcEIGHT HUNDREDcNINE HUNDREDcONE THOUSANDcTWO THOUSANDcTHREE THOUSAND",
  "cFOUR THOUSANDcFIVE THOUSANDcSIX THOUSANDcSEVEN THOUSANDcEIGHT THOUSANDcNINE THOUSAND",
  "cTEN THOUSANDcTWENTY THOUSANDcTHIRTY THOUSANDcFORTY THOUSANDcFIFTY THOUSANDcSIXTY THOUSAND",
  "cSEVENTY THOUSANDcEIGHTY THOUSANDcNINETY THOUSAND.10137bWEIGHT BASE UNITcFIRST SUBUNIT",
  "cSECOND SUBUNITcTHIRD SUBUNITcFOURTH SUBUNITbDRY MEASURE FIRST SUBUNIT",
  "bLIQUID MEASURE FIRST SUBUNITbMEASURE SECOND SUBUNITcTHIRD SUBUNIT",
  "aGREEK ACROPHONIC ATTIC ONE QUARTEReHALFeDRACHMAdFIVEdFIFTYdFIVE HUNDREDeTHOUSAND",
  "dFIFTY THOUSANDdFIVE TALENTSdTEN TALENTSdFIFTY TALENTSdONE HUNDRED TALENTS",
  "dFIVE HUNDRED TALENTSdONE THOUSAND TALENTSdFIVE THOUSAND TALENTSeSTATERSdTEN STATERS",
  "dFIFTY STATERSdONE HUNDRED STATERSdFIVE HUNDRED STATERSdONE THOUSAND STATERS",
  "dTEN THOUSAND STATERSdFIFTY THOUSAND STATERSdTEN MNAScHERAEUM ONE PLETHRONcTHESPIAN ONE",
  "cHERMIONIAN ONEcEPIDAUREAN TWOcTHESPIAN TWOcCYRENAIC TWO DRACHMAScEPIDAUREAN TWO DRACHMAS",
  "cTROEZENIAN FIVEdTENeALTERNATE FORMcHERMIONIAN TENcMESSENIAN TENcTHESPIAN TENdTHIRTY",
  "cTROEZENIAN FIFTYeALTERNATE FORMcHERMIONIAN FIFTYcTHESPIAN FIFTYdONE HUNDREDdTHREE HUNDRED",
  "cEPIDAUREAN FIVE HUNDREDcTROEZENIAN FIVE HUNDREDcTHESPIAN FIVE HUNDREDcCARYSTIAN FIVE HUNDRED",
  "cNAXIAN FIVE HUNDREDcTHESPIAN ONE THOUSANDdFIVE THOUSANDcDELPHIC FIVE MNAScSTRATIAN FIFTY MNAS",
  "bONE HALF SIGNeALTERNATE FORMbTWO THIRDS SIGNbTHREE QUARTERS SIGNbYEAR SIGNbTALENT SIGN",
  "bDRACHMA SIGNbOBOL SIGNbTWO OBOLS SIGNbTHREE OBOLS SIGNbFOUR OBOLS SIGNbFIVE OBOLS SIGN",
  "bMETRETES SIGNbKYATHOS BASE SIGNbLITRA SIGNbOUNKIA SIGNbXESTES SIGNbARTABE SIGNbAROURA SIGN",
  "bGRAMMA SIGNbTRYBLION BASE SIGNbZERO SIGNbONE QUARTER SIGNbSINUSOID SIGNbINDICTION SIGN",
  "aNOMISMA SIGN.10190aROMAN SEXTANS SIGNbUNCIA SIGNbSEMUNCIA SIGNbSEXTULA SIGN",
  "bDIMIDIA SEXTULA SIGNbSILIQUA SIGNbDENARIUS SIGNbQUINARIUS SIGNbSESTERTIUS SIGNbDUPONDIUS SIGN",
  "bAS SIGNbCENTURIAL SIGNaASCIA SYMBOL.101A0aGREEK SYMBOL TAU RHO",
  ".101D0aPHAISTOS DISC SIGN PEDESTRIANdPLUMED HEADdTATTOOED HEADdCAPTIVEdCHILDdWOMANdHELMET",
  "dGAUNTLETdTIARAdARROWdBOWdSHIELDdCLUBdMANACLESdMATTOCKdSAWdLIDdBOOMERANGdCARPENTRY PLANE",
  "dDOLIUMdCOMBdSLINGdCOLUMNdBEEHIVEdSHIPdHORNdHIDEdBULLS LEGdCATdRAMdEAGLEdDOVEdTUNNYdBEE",
  "dPLANE TREEdVINEdPAPYRUSdROSETTEdLILYdOX BACKdFLUTEdGRATERdSTRAINERdSMALL AXEdWAVY BAND",
  "dCOMBINING OBLIQUE STROKE.10280aLYCIAN LETTER AcEcBcBHcGcDcIcWcZcTHcJcKcQcLcMcNcMMcNNcUcPcKKcR",
  "cScTcTTcANcENcHcX.102A0aCARIAN LETTER AcP2cDcLcUUUcRcLDcA2cQcBcMcOcD2cTcSHcSH2cScC-18cUcNNcXcN",
  "cTT2cPcSScIcEcUUUUcKcK2cNDcUUcGcG2cSTcST2cNGcIIcC-39cTTcUUU2cRRcMBcMB2cMB3cMB4cLD2cE2cUUU3",
  ".102E0aCOPTIC EPACT THOUSANDS MARKcDIGIT ONEdTWOdTHREEdFOURdFIVEdSIXdSEVENdEIGHTdNINE",
  "cNUMBER TENdTWENTYdTHIRTYdFORTYdFIFTYdSIXTYdSEVENTYdEIGHTYdNINETYdONE HUNDREDdTWO HUNDRED",
  "dTHREE HUNDREDdFOUR HUNDREDdFIVE HUNDREDdSIX HUNDREDdSEVEN HUNDREDdEIGHT HUNDREDdNINE HUNDRED",
  ".10300aOLD ITALIC LETTER AdBEdKEdDEdEdVEdZEdHEdTHEdIdKAdELdEMdENdESHdOdPEdSHEdKUdERdESdTEdU",
  "dEKSdPHEdKHEdEFdERSdCHEdIIdUUdESScNUMERAL ONEdFIVEdTENdFIFTY.1032DcLETTER YEdNORTHERN TSE",
  "dSOUTHERN TSEaGOTHIC LETTER AHSAcBAIRKANcGIBAcDAGScAIHVUScQAIRTHRAcIUJAcHAGLcTHIUTHcEIScKUSMA",
  "cLAGUScMANNAcNAUTHScJERcURUScPAIRTHRAcNINETYcRAIDAcSAUILcTEIWScWINJAcFAIHUcIGGWScHWAIRcOTHAL",
  "cNINE HUNDRED.10350aOLD PERMIC LETTER ANdBURdGAIdDOIdEdZHOIdDZHOIdZATAdDZITAdIdKOKEdLEIdMENOE",
  "dNENOEdVOOIdPEEIdREIdSIIdTAIdUdCHERYdSHOOIdSHCHOOIdYRYdYERUdOdOOdEFdHAdTSIUdVERdYERdYERIdYAT",
  "dIEdYUdYAdIAaCOMBINING OLD PERMIC LETTER ANeDOIeZATAeNENOEeSII.10380aUGARITIC LETTER ALPAcBETA",
  "cGAMLAcKHAcDELTAcHOcWOcZETAcHOTAcTETcYODcKAFcSHINcLAMDAcMEMcDHALcNUNcZUcSAMKAcAINcPUcSADEcQOPA",
  "cRASHAcTHANNAcGHAINcTOcIcUcSSU.1039FbWORD DIVIDERaOLD PERSIAN SIGN AdIdUdKAdKUdGAdGUdXAdCAdJA",
  "dJIdTAdTUdDAdDIdDUdTHAdPAdBAdFAdNAdNUdMAdMIdMUdYAdVAdVIdRAdRUdLAdSAdZAdSHAdSSAdHA",
  ".103C8dAURAMAZDAAdAURAMAZDAA-2dAURAMAZDAAHAdXSHAAYATHIYAdDAHYAAUSHdDAHYAAUSH-2dBAGAdBUUMISH",
  "cWORD DIVIDERcNUMBER ONEdTWOdTENdTWENTYdHUNDRED.10400aDESERET CAPITAL LETTER LONG IeEeAeAHeO",
  "eOOdSHORT IeEeAeAHeOeOOdAYdOWdWUdYEEdHdPEEdBEEdTEEdDEEdCHEEdJEEdKAYdGAYdEFdVEEdETHdTHEEdESdZEE",
  "dESHdZHEEdERdELdEMdENdENGdOIdEWbSMALL LETTER LONG IeEeAeAHeOeOOdSHORT IeEeAeAHeOeOOdAYdOWdWU",
  "dYEEdHdPEEdBEEdTEEdDEEdCHEEdJEEdKAYdGAYdEFdVEEdETHdTHEEdESdZEEdESHdZHEEdERdELdEMdENdENGdOIdEW",
  "aSHAVIAN LETTER PEEPcTOTcKICKcFEEcTHIGHcSOcSUREcCHURCHcYEAcHUNGcBIBcDEADcGAGcVOWcTHEYcZOO",
  "cMEASUREcJUDGEcWOEcHA-HAcLOLLcMIMEcIFcEGGcASHcADOcONcWOOLcOUTcAHcROARcNUNcEATcAGEcICEcUPcOAK",
  "cOOZEcOILcAWEcAREcORcAIRcERRcARRAYcEARcIANcYEWaOSMANYA LETTER ALEFcBAcTAcJAcXAcKHAcDEELcRAcSA",
  "cSHIINcDHAcCAYNcGAcFAcQAAFcKAAFcLAANcMIINcNUUNcWAWcHAcYAcAcEcIcOcUcAAcEEcOO.104A0bDIGIT ZERO",
  "cONEcTWOcTHREEcFOURcFIVEcSIXcSEVENcEIGHTcNINE.104B0aOSAGE CAPITAL LETTER AdAIdAINdAHdBRAdCHA",
  "dEHCHAdEdEINdHAdHYAdIdKAdEHKAdKYAdLAdMAdNAdOdOINdPAdEHPAdSAdSHAdTAdEHTAdTSAdEHTSAdTSHAdDHAdU",
  "dWAdKHAdGHAdZAdZHA.104D8bSMALL LETTER AdAIdAINdAHdBRAdCHAdEHCHAdEdEINdHAdHYAdIdKAdEHKAdKYAdLA",
  "dMAdNAdOdOINdPAdEHPAdSAdSHAdTAdEHTAdTSAdEHTSAdTSHAdDHAdUdWAdKHAdGHAdZAdZHA",
  ".10500aELBASAN LETTER AcBEcCEcCHEcDEcNDEcDHEcEIcEcFEcGEcGJEcHEcIcJEcKEcLEcLLEcMEcNEcNAcNJEcO",
  "cPEcQEcREcRREcSEcSHEcTEcTHEcUcVEcXEcYcZEcZHEcGHEcGHAMMAcKHE",
  ".10530aCAUCASIAN ALBANIAN LETTER ALTdBETdGIMdDATdEBdZARLdEYNdZHILdTASdCHAdYOWDdZHAdIRBdSHAdLAN",
  "dINYAdXEYNdDYANdCARdJHOXdKARdLYITdHEYTdQAYdAORdCHOYdCHIdCYAYdMAQdQARdNOWCdDZYAYdSHAKdJAYNdON",
  "dTYAYdFAMdDZAYdCHATdPENdGHEYSdRATdSEYKdVEYZdTIWRdSHOYdIWNdCYAWdCAYNdYAYDdPIWRdKIW",
  ".1056FcCITATION MARKaVITHKUQI CAPITAL LETTER AdBBEdBEdCEdCHEdDEdDHEdEIdEdFEdGA.1057CdHAdHHAdI",
  "dIJEdJEdKAdLAdLLAdMEdNEdNJEdOdPEdQAdRE.1058CdSEdSHEdTEdTHEdUdVEdXE.10594dYdZE",
  ".10597bSMALL LETTER AdBBEdBEdCEdCHEdDEdDHEdEIdEdFEdGA.105A3dHAdHHAdIdIJEdJEdKAdLAdLLAdMEdNE",
  "dNJEdOdPEdQAdRE.105B3dSEdSHEdTEdTHEdUdVEdXE.105BBdYdZE.10600aLINEAR A SIGN AB001dAB002dAB003",
  "dAB004dAB005dAB006dAB007dAB008dAB009dAB010dAB011dAB013dAB016dAB017dAB020dAB021dAB021FdAB021M",
  "dAB022dAB022FdAB022MdAB023dAB023MdAB024dAB026dAB027dAB028dA028BdAB029dAB030dAB031dAB034dAB037",
  "dAB038dAB039dAB040dAB041dAB044dAB045dAB046dAB047dAB048dAB049dAB050dAB051dAB053dAB054dAB055",
  "dAB056dAB057dAB058dAB059dAB060dAB061dAB065dAB066dAB067dAB069dAB070dAB073dAB074dAB076dAB077",
  "dAB078dAB079dAB080dAB081dAB082dAB085dAB086dAB087dA100-102dAB118dAB120dA120BdAB122dAB123dAB131A",
  "dAB131BdA131CdAB164dAB171dAB180dAB188dAB191dA301dA302dA303dA304dA305dA306dA307dA308dA309A",
  "dA309BdA309CdA310dA311dA312dA313AdA313BdA313CdA314dA315dA316dA317dA318dA319dA320dA321dA322",
  "dA323dA324dA325dA326dA327dA328dA329dA330dA331dA332dA333dA334dA335dA336dA337dA338dA339dA340",
  "dA341dA342dA343dA344dA345dA346dA347dA348dA349dA350dA351dA352dA353dA354dA355dA356dA357dA358",
  "dA359dA360dA361dA362dA363dA364dA365dA366dA367dA368dA369dA370dA371dA400-VASdA401-VASdA402-VAS",
  "dA403-VASdA404-VASdA405-VASdA406-VASdA407-VASdA408-VASdA409-VASdA410-VASdA411-VASdA412-VAS",
  "dA413-VASdA414-VASdA415-VASdA416-VASdA417-VASdA418-VASdA501dA502dA503dA504dA505dA506dA508dA509",
  "dA510dA511dA512dA513dA515dA516dA520dA521dA523dA524dA525dA526dA527dA528dA529dA530dA531dA532",
  "dA534dA535dA536dA537dA538dA539dA540dA541dA542dA545dA547dA548dA549dA550dA551dA552dA553dA554",
  "dA555dA556dA557dA559dA563dA564dA565dA566dA568dA569dA570dA571dA572dA573dA574dA575dA576dA577",
  "dA578dA579dA580dA581dA582dA583dA584dA585dA586dA587dA588dA589dA591dA592dA594dA595dA596dA598",
  "dA600dA601dA602dA603dA604dA606dA608dA609dA610dA611dA612dA613dA614dA615dA616dA617dA618dA619",
  "dA620dA621dA622dA623dA624dA626dA627dA628dA629dA634dA637dA638dA640dA642dA643dA644dA645dA646",
  "dA648dA649dA651dA652dA653dA654dA655dA656dA657dA658dA659dA660dA661dA662dA663dA664.10740dA701 A",
  "dA702 BdA703 DdA704 EdA705 FdA706 HdA707 JdA708 KdA709 LdA709-2 L2dA709-3 L3dA709-4 L4",
  "dA709-6 L6dA710 WdA711 XdA712 YdA713 OMEGAdA714 ABBdA715 BBdA717 DDdA726 EYYYdA732 JE",
  ".10760dA800dA801dA802dA803dA804dA805dA806dA807.10780aMODIFIER LETTER SMALL CAPITAL AA",
  "cSUPERSCRIPT TRIANGULAR COLONdHALF TRIANGULAR COLONcSMALL AEdCAPITAL BdB WITH HOOK",
  ".10787dDZ DIGRAPHfWITH RETROFLEX HOOKgCURLdDEZH DIGRAPHdD WITH TAILfHOOKgAND TAILdREVERSED E",
  "dCLOSED REVERSED OPEN EdFENG DIGRAPHdRAMS HORNdCAPITAL GdG WITH HOOKdCAPITAL G WITH HOOK",
  "dH WITH STROKEdCAPITAL HdHENG WITH HOOKdDOTLESS J WITH STROKE AND HOOKdLS DIGRAPHdLZ DIGRAPH",
  "dL WITH BELTdCAPITAL L WITH BELTdL WITH RETROFLEX HOOK AND BELTdLEZHeWITH RETROFLEX HOOK",
  "dTURNED YfWITH BELTdO WITH STROKEdCAPITAL OEdCLOSED OMEGAdQdTURNED R WITH LONG LEG",
  "iAND RETROFLEX HOOKdR WITH TAILfFISHHOOKdCAPITAL RdTC DIGRAPH WITH CURLdTS DIGRAPH",
  "fWITH RETROFLEX HOOKdTESH DIGRAPHdT WITH RETROFLEX HOOKdV WITH RIGHT HOOK.107B2dCAPITAL Y",
  "cGLOTTAL STOP WITH STROKEcREVERSED GLOTTAL STOP WITH STROKEcBILABIAL CLICKcDENTAL CLICK",
  "cLATERAL CLICKcALVEOLAR CLICKcRETROFLEX CLICK WITH RETROFLEX HOOKcSMALL S WITH CURL",
  ".10800aCYPRIOT SYLLABLE AcEcIcOcUcJA.10808cJO.1080AcKAcKEcKIcKOcKUcLAcLEcLIcLOcLUcMAcMEcMIcMO",
  "cMUcNAcNEcNIcNOcNUcPAcPEcPIcPOcPUcRAcREcRIcROcRUcSAcSEcSIcSOcSUcTAcTEcTIcTOcTUcWAcWEcWIcWO",
  ".10837cXAcXE.1083CcZA.1083FcZOaIMPERIAL ARAMAIC LETTER ALEPHdBETHdGIMELdDALETHdHEdWAWdZAYIN",
  "dHETHdTETHdYODHdKAPHdLAMEDHdMEMdNUNdSAMEKHdAYINdPEdSADHEdQOPHdRESHdSHINdTAW.10857cSECTION SIGN",
  "cNUMBER ONEdTWOdTHREEdTENdTWENTYdONE HUNDREDeTHOUSANDdTEN THOUSANDaPALMYRENE LETTER ALEPHcBETH",
  "cGIMELcDALETHcHEcWAWcZAYINcHETHcTETHcYODHcKAPHcLAMEDHcMEMcFINAL NUNcNUNcSAMEKHcAYINcPEcSADHE",
  "cQOPHcRESHcSHINcTAWbLEFT-POINTING FLEURONbRIGHT-POINTING FLEURONbNUMBER ONEcTWOcTHREEcFOUR",
  "cFIVEcTENcTWENTYaNABATAEAN LETTER FINAL ALEPHcALEPHcFINAL BETHcBETHcGIMELcDALETHcFINAL HEcHE",
  "cWAWcZAYINcHETHcTETHcFINAL YODHcYODHcFINAL KAPHcKAPHcFINAL LAMEDHcLAMEDHcFINAL MEMcMEM",
  "cFINAL NUNcNUNcSAMEKHcAYINcPEcSADHEcQOPHcRESHcFINAL SHINcSHINcTAW.108A7bNUMBER ONEcTWOcTHREE",
  "cFOURbCRUCIFORM NUMBER FOURbNUMBER FIVEcTENcTWENTYcONE HUNDRED.108E0aHATRAN LETTER ALEPHcBETH",
  "cGIMELcDALETH-RESHcHEcWAWcZAYNcHETHcTETHcYODHcKAPHcLAMEDHcMEMcNUNcSAMEKHcAYNcPEcSADHEcQOPH",
  ".108F4cSHINcTAW.108FBbNUMBER ONEcFIVEcTENcTWENTYcONE HUNDREDaPHOENICIAN LETTER ALFcBETcGAML",
  "cDELTcHEcWAUcZAIcHETcTETcYODcKAFcLAMDcMEMcNUNcSEMKcAINcPEcSADEcQOFcROSHcSHINcTAUbNUMBER ONE",
  "cTENcTWENTYcONE HUNDREDcTWOcTHREE.1091FbWORD SEPARATORaLYDIAN LETTER AcBcGcDcEcVcIcYcKcLcMcNcO",
  "cRcSScTcUcFcQcScTTcANcENcLYcNNcC.1093FbTRIANGULAR MARK.10980aMEROITIC HIEROGLYPHIC LETTER AdE",
  "dIdOdYAdWAdBAdBA-2dPAdMAdNAdNA-2dNEdNE-2dRAdRA-2dLAdKHAdHHAdSAdSA-2dSEdKAdQAdTAdTA-2dTEdTE-2",
  "dTOdDAcSYMBOL VIDJdVIDJ-2bCURSIVE LETTER AdEdIdOdYAdWAdBAdPAdMAdNAdNEdRAdLAdKHAdHHAdSA",
  "dARCHAIC SAdSEdKAdQAdTAdTEdTOdDA.109BCcFRACTION ELEVEN TWELFTHSdONE HALFcLOGOGRAM RMTdIMN",
  "cNUMBER ONEdTWOdTHREEdFOURdFIVEdSIXdSEVENdEIGHTdNINEdTENdTWENTYdTHIRTYdFORTYdFIFTYdSIXTY",
  "dSEVENTY.109D2dONE HUNDREDdTWO HUNDREDdTHREE HUNDREDdFOUR HUNDREDdFIVE HUNDREDdSIX HUNDRED",
  "dSEVEN HUNDREDdEIGHT HUNDREDdNINE HUNDREDdONE THOUSANDdTWO THOUSANDdTHREE THOUSAND",
  "dFOUR THOUSANDdFIVE THOUSANDdSIX THOUSANDdSEVEN THOUSANDdEIGHT THOUSANDdNINE THOUSAND",
  "dTEN THOUSANDdTWENTY THOUSANDdTHIRTY THOUSANDdFORTY THOUSANDdFIFTY THOUSANDdSIXTY THOUSAND",
  "dSEVENTY THOUSANDdEIGHTY THOUSANDdNINETY THOUSANDdONE HUNDRED THOUSANDdTWO HUNDRED THOUSAND",
  "dTHREE HUNDRED THOUSANDdFOUR HUNDRED THOUSANDdFIVE HUNDRED THOUSANDdSIX HUNDRED THOUSAND",
  "dSEVEN HUNDRED THOUSANDdEIGHT HUNDRED THOUSANDdNINE HUNDRED THOUSANDcFRACTION ONE TWELFTH",
  "dTWO TWELFTHSdTHREE TWELFTHSdFOUR TWELFTHSdFIVE TWELFTHSdSIX TWELFTHSdSEVEN TWELFTHS",
  "dEIGHT TWELFTHSdNINE TWELFTHSdTEN TWELFTHSaKHAROSHTHI LETTER AbVOWEL SIGN IdUdVOCALIC R",
  ".10A05dEdO.10A0CcLENGTH MARKbSIGN DOUBLE RING BELOWcANUSVARAcVISARGAbLETTER KAcKHAcGAcGHA",
  ".10A15cCAcCHAcJA.10A19cNYAcTTAcTTHAcDDAcDDHAcNNAcTAcTHAcDAcDHAcNAcPAcPHAcBAcBHAcMAcYAcRAcLAcVA",
  "cSHAcSSAcSAcZAcHAcKKAcTTTHAcTTTAcVHA.10A38bSIGN BAR ABOVEcCAUDAcDOT BELOW.10A3FbVIRAMA",
  "bDIGIT ONEcTWOcTHREEcFOURbNUMBER TENcTWENTYcONE HUNDREDdTHOUSANDbFRACTION ONE HALF",
  ".10A50bPUNCTUATION DOTcSMALL CIRCLEcCIRCLEcCRESCENT BARcMANGALAMcLOTUScDANDAcDOUBLE DANDA",
  "cLINES.10A60aOLD SOUTH ARABIAN LETTER HEeLAMEDHeHETHeMEMeQOPHeWAWeSHINeRESHeBETHeTAWeSATeKAPH",
  "eNUNeKHETHeSADHEeSAMEKHeFEeALEFeAYNeDHADHEeGIMELeDALETHeGHAYNeTETHeZAYNeDHALETHeYODHeTHAW",
  "eTHETHdNUMBER ONEeFIFTYdNUMERIC INDICATORbNORTH ARABIAN LETTER HEHeLAMeHAHeMEEMeQAFeWAWeES-2",
  "eREHeBEHeTEHeES-1eKAFeNOONeKHAHeSADeES-3eFEHeALEFeAINeDADeGEEMeDALeGHAINeTAHeZAINeTHALeYEH",
  "eTHEHeZAHdNUMBER ONEeTENeTWENTY.10AC0aMANICHAEAN LETTER ALEPHcBETHcBHETHcGIMELcGHIMELcDALETH",
  "cHEcWAWbSIGN UDbLETTER ZAYINcZHAYINcJAYINcJHAYINcHETHcTETHcYODHcKAPHcXAPHcKHAPHcLAMEDHcDHAMEDH",
  "cTHAMEDHcMEMcNUNcSAMEKHcAYINcAAYINcPEcFEcSADHEcQOPHcXOPHcQHOPHcRESHcSHINcSSHINcTAW",
  "bABBREVIATION MARK ABOVEdBELOW.10AEBbNUMBER ONEcFIVEcTENcTWENTYcONE HUNDREDbPUNCTUATION STAR",
  "cFLEURONcDOUBLE DOT WITHIN DOTcDOT WITHIN DOTdcTWO DOTScLINE FILLER.10B00aAVESTAN LETTER AcAA",
  "cAOcAAOcANcAANcAEcAEEcEcEEcOcOOcIcIIcUcUUcKEcXEcXYEcXVEcGEcGGEcGHEcCEcJEcTEcTHEcDEcDHEcTTEcPE",
  "cFEcBEcBHEcNGEcNGYEcNGVEcNEcNYEcNNEcMEcHMEcYYEcYEcVEcREcLEcSEcZEcSHEcZHEcSHYEcSSHEcHE",
  ".10B39bABBREVIATION MARKaTINY TWO DOTS OVER ONE DOT PUNCTUATION",
  "aSMALL TWO DOTS OVER ONE DOT PUNCTUATIONaLARGE TWO DOTS OVER ONE DOT PUNCTUATION",
  "bONE DOT OVER TWO DOTS PUNCTUATIONbTWO RINGS OVER ONE RING PUNCTUATION",
  "bONE RING OVER TWO RINGS PUNCTUATIONaINSCRIPTIONAL PARTHIAN LETTER ALEPHdBETHdGIMELdDALETHdHE",
  "dWAWdZAYINdHETHdTETHdYODHdKAPHdLAMEDHdMEMdNUNdSAMEKHdAYINdPEdSADHEdQOPHdRESHdSHINdTAW",
  ".10B58cNUMBER ONEdTWOdTHREEdFOURdTENdTWENTYdONE HUNDREDeTHOUSANDbPAHLAVI LETTER ALEPHdBETH",
  "dGIMELdDALETHdHEdWAW-AYIN-RESHdZAYINdHETHdTETHdYODHdKAPHdLAMEDHdMEM-QOPHdNUNdSAMEKHdPEdSADHE",
  "dSHINdTAW.10B78cNUMBER ONEdTWOdTHREEdFOURdTENdTWENTYdONE HUNDREDeTHOUSAND",
  "aPSALTER PAHLAVI LETTER ALEPHdBETHdGIMELdDALETHdHEdWAW-AYIN-RESHdZAYINdHETHdYODHdKAPHdLAMEDH",
  "dMEM-QOPHdNUNdSAMEKHdPEdSADHEdSHINdTAW.10B99cSECTION MARKcTURNED SECTION MARK",
  "cFOUR DOTS WITH CROSSfDOT.10BA9cNUMBER ONEdTWOdTHREEdFOURdTENdTWENTYdONE HUNDRED",
  ".10C00aOLD TURKIC LETTER ORKHON AdYENISEI AeAEdORKHON IdYENISEI IeEdORKHON OeOEdYENISEI OE",
  "dORKHON ABdYENISEI ABdORKHON AEBdYENISEI AEBdORKHON AGdYENISEI AGdORKHON AEGdYENISEI AEG",
  "dORKHON ADdYENISEI ADdORKHON AEDeEZdYENISEI EZdORKHON AYdYENISEI AYdORKHON AEYdYENISEI AEY",
  "dORKHON AEKdYENISEI AEKdORKHON OEKdYENISEI OEKdORKHON ALdYENISEI ALdORKHON AELeELTeEMeANeAEN",
  "dYENISEI AENdORKHON ENTdYENISEI ENTdORKHON ENCdYENISEI ENCdORKHON ENYdYENISEI ENYeANG",
  "dORKHON ENGdYENISEI AENGdORKHON EPeOPeICeECdYENISEI ECdORKHON AQdYENISEI AQdORKHON IQ",
  "dYENISEI IQdORKHON OQdYENISEI OQdORKHON ARdYENISEI ARdORKHON AEReASeAESeASHdYENISEI ASH",
  "dORKHON ESHdYENISEI ESHdORKHON ATdYENISEI ATdORKHON AETdYENISEI AETdORKHON OTeBASH",
  ".10C80bHUNGARIAN CAPITAL LETTER AeAAeEBeAMBeECeENCeECSeEDeANDeEeCLOSE EeEEeEFeEGeEGYeEHeIeII",
  "eEJeEKeAKeUNKeELeELYeEMeENeENYeOeOOeNIKOLSBURG OEeRUDIMENTA OEeOEEeEPeEMPeEReSHORT EReESeESZ",
  "eETeENTeETYeECHeUeUUeNIKOLSBURG UEeRUDIMENTA UEeEVeEZeEZSeENT-SHAPED SIGNeUS",
  ".10CC0cSMALL LETTER AeAAeEBeAMBeECeENCeECSeEDeANDeEeCLOSE EeEEeEFeEGeEGYeEHeIeIIeEJeEKeAKeUNK",
  "eELeELYeEMeENeENYeOeOOeNIKOLSBURG OEeRUDIMENTA OEeOEEeEPeEMPeEReSHORT EReESeESZeETeENTeETYeECH",
  "eUeUUeNIKOLSBURG UEeRUDIMENTA UEeEVeEZeEZSeENT-SHAPED SIGNeUS.10CFAcNUMBER ONEdFIVEdTENdFIFTY",
  "dONE HUNDREDeTHOUSANDaHANIFI ROHINGYA LETTER AdBAdPAdTAdTTAdJAdCAdHAdKHAdFAdDAdDDAdRAdRRAdZA",
  "dSAdSHAdKAdGAdLAdMAdNAdWAdKINNA WAdYAdKINNA YAdNGAdNYAdVAcVOWEL AdIdUdEdOcMARK SAKINdNA KHONNA",
  "cSIGN HARBAHAYdTAHALAdTANAdTASSI.10D30cDIGIT ZEROdONEdTWOdTHREEdFOURdFIVEdSIXdSEVENdEIGHTdNINE",
  ".10E60aRUMI DIGIT ONEcTWOcTHREEcFOURcFIVEcSIXcSEVENcEIGHTcNINEbNUMBER TENcTWENTYcTHIRTYcFORTY",
  "cFIFTYcSIXTYcSEVENTYcEIGHTYcNINETYcONE HUNDREDcTWO HUNDREDcTHREE HUNDREDcFOUR HUNDRED",
  "cFIVE HUNDREDcSIX HUNDREDcSEVEN HUNDREDcEIGHT HUNDREDcNINE HUNDREDbFRACTION ONE HALFdQUARTER",
  "dTHIRDcTWO THIRDS.10E80aYEZIDI LETTER ELIFcBEcPEcPHEcTHEcSEcCIMcCHIMcCHHIMcHHAcXAcDALcZALcRA",
  "cRHAcZAcJAcSINcSHINcSADcDADcTAcZEcEYNcXHEYNcFAcVAdALTERNATE FORMcQAFcKAFcKHAFcGAFcLAMcMIMcNUN",
  "cUMcWAWcOWcEWcHAYcYOTcET.10EABbCOMBINING HAMZA MARKcMADDA MARKbHYPHENATION MARK",
  ".10EB0bLETTER LAM WITH DOT ABOVEcYOT WITH CIRCUMFLEX ABOVE.10F00aOLD SOGDIAN LETTER ALEPH",
  "dFINAL ALEPHdBETHdFINAL BETHdGIMELdHEdFINAL HEdWAWdZAYINdHETHdYODHdKAPHdLAMEDHdMEMdNUN",
  "dFINAL NUNfWITH VERTICAL TAILdSAMEKHdAYINdALTERNATE AYINdPEdSADHEdFINAL SADHE",
  "fWITH VERTICAL TAILdRESH-AYIN-DALETHdSHINdTAWdFINAL TAWfWITH VERTICAL TAILcNUMBER ONEdTWO",
  "dTHREEdFOURdFIVEdTENdTWENTYdTHIRTYdONE HUNDREDcFRACTION ONE HALFcLIGATURE AYIN-DALETH",
  ".10F30aSOGDIAN LETTER ALEPHcBETHcGIMELcHEcWAWcZAYINcHETHcYODHcKAPHcLAMEDHcMEMcNUNcSAMEKHcAYIN",
  "cPEcSADHEcRESH-AYINcSHINcTAWcFETHcLESHbINDEPENDENT SHINbCOMBINING DOT BELOWcTWO DOTS BELOW",
  "cDOT ABOVEcTWO DOTS ABOVEcCURVE ABOVEdBELOWcHOOK ABOVEdBELOWcLONG HOOK BELOWcRESH BELOW",
  "cSTROKE BELOWbNUMBER ONEcTENcTWENTYcONE HUNDREDbPUNCTUATION TWO VERTICAL BARSfWITH DOTS",
  "cCIRCLE WITH DOTcTWO CIRCLES WITH DOTScHALF CIRCLE WITH DOT.10F70aOLD UYGHUR LETTER ALEPHdBETH",
  "dGIMEL-HETHdWAWdZAYINdFINAL HETHdYODHdKAPHdLAMEDHdMEMdNUNdSAMEKHdPEdSADHEdRESHdSHINdTAWdLESH",
  "cCOMBINING DOT ABOVEeBELOWdTWO DOTS ABOVEfBELOWcPUNCTUATION BARdTWO BARSeDOTSdFOUR DOTS",
  ".10FB0aCHORASMIAN LETTER ALEPHcSMALL ALEPHcBETHcGIMELcDALETHcHEcWAWcCURLED WAWcZAYINcHETHcYODH",
  "cKAPHcLAMEDHcMEMcNUNcSAMEKHcAYINcPEcRESHcSHINcTAWbNUMBER ONEcTWOcTHREEcFOURcTENcTWENTY",
  "cONE HUNDRED.10FE0aELYMAIC LETTER ALEPHcBETHcGIMELcDALETHcHEcWAWcZAYINcHETHcTETHcYODHcKAPH",
  "cLAMEDHcMEMcNUNcSAMEKHcAYINcPEcSADHEcQOPHcRESHcSHINcTAWbLIGATURE ZAYIN-YODH",
  ".11000aBRAHMI SIGN CANDRABINDUcANUSVARAcVISARGAcJIHVAMULIYAcUPADHMANIYAbLETTER AcAAcIcIIcUcUU",
  "cVOCALIC RdRRdLdLLcEcAIcOcAUcKAcKHAcGAcGHAcNGAcCAcCHAcJAcJHAcNYAcTTAcTTHAcDDAcDDHAcNNAcTAcTHA",
  "cDAcDHAcNAcPAcPHAcBAcBHAcMAcYAcRAcLAcVAcSHAcSSAcSAcHAcLLAcOLD TAMIL LLLAeRRAeNNNA",
  "bVOWEL SIGN AAdBHATTIPROLU AAdIdIIdUdUUdVOCALIC ReRReLeLLdEdAIdOdAUbVIRAMAbDANDAbDOUBLE DANDA",
  "bPUNCTUATION DOTcDOUBLE DOTcLINEcCRESCENT BARcLOTUS.11052bNUMBER ONEcTWOcTHREEcFOURcFIVEcSIX",
  "cSEVENcEIGHTcNINEcTENcTWENTYcTHIRTYcFORTYcFIFTYcSIXTYcSEVENTYcEIGHTYcNINETYcONE HUNDRED",
  "dTHOUSANDbDIGIT ZEROcONEcTWOcTHREEcFOURcFIVEcSIXcSEVENcEIGHTcNINEbSIGN OLD TAMIL VIRAMA",
  "bLETTER OLD TAMIL SHORT EfObVOWEL SIGN OLD TAMIL SHORT EgObLETTER OLD TAMIL LLA",
  ".1107FbNUMBER JOINERaKAITHI SIGN CANDRABINDUcANUSVARAcVISARGAbLETTER AcAAcIcIIcUcUUcEcAIcOcAU",
  "cKAcKHAcGAcGHAcNGAcCAcCHAcJAcJHAcNYAcTTAcTTHAcDDAcDDDHAcDDHAcRHAcNNAcTAcTHAcDAcDHAcNAcPAcPHA",
  "cBAcBHAcMAcYAcRAcLAcVAcSHAcSSAcSAcHAbVOWEL SIGN AAdIdIIdUdUUdEdAIdOdAUbSIGN VIRAMAcNUKTA",
  "bABBREVIATION SIGNbENUMERATION SIGNbNUMBER SIGNbSECTION MARKbDOUBLE SECTION MARKbDANDA",
  "bDOUBLE DANDAbVOWEL SIGN VOCALIC R.110CDbNUMBER SIGN ABOVE.110D0aSORA SOMPENG LETTER SAHdTAH",
  "dBAHdCAHdDAHdGAHdMAHdNGAHdLAHdNAHdVAHdPAHdYAHdRAHdHAHdKAHdJAHdNYAHdAHdEEHdIHdUHdOHdEHdMAE",
  ".110F0cDIGIT ZEROdONEdTWOdTHREEdFOURdFIVEdSIXdSEVENdEIGHTdNINE.11100aCHAKMA SIGN CANDRABINDU",
  "cANUSVARAcVISARGAbLETTER AAcIcUcEcKAAcKHAAcGAAcGHAAcNGAAcCAAcCHAAcJAAcJHAAcNYAAcTTAAcTTHAA",
  "cDDAAcDDHAAcNNAAcTAAcTHAAcDAAcDHAAcNAAcPAAcPHAAcBAAcBHAAcMAAcYYAAcYAAcRAAcLAAcWAAcSAAcHAA",
  "bVOWEL SIGN AdIdIIdUdUUdEdAIdOdAUdOIbO MARKbAU MARKbVIRAMAbMAAYYAA.11136bDIGIT ZEROcONEcTWO",
  "cTHREEcFOURcFIVEcSIXcSEVENcEIGHTcNINEbSECTION MARKbDANDAbDOUBLE DANDAbQUESTION MARK",
  "bLETTER LHAAbVOWEL SIGN AAdEIbLETTER VAA.11150aMAHAJANI LETTER AcIcUcEcOcKAcKHAcGAcGHAcCAcCHA",
  "cJAcJHAcNYAcTTAcTTHAcDDAcDDHAcNNAcTAcTHAcDAcDHAcNAcPAcPHAcBAcBHAcMAcRAcLAcVAcSAcHAcRRA",
  "bSIGN NUKTAbABBREVIATION SIGNbSECTION MARKbLIGATURE SHRI.11180aSHARADA SIGN CANDRABINDU",
  "cANUSVARAcVISARGAbLETTER AcAAcIcIIcUcUUcVOCALIC RdRRdLdLLcEcAIcOcAUcKAcKHAcGAcGHAcNGAcCAcCHA",
  "cJAcJHAcNYAcTTAcTTHAcDDAcDDHAcNNAcTAcTHAcDAcDHAcNAcPAcPHAcBAcBHAcMAcYAcRAcLAcLLAcVAcSHAcSSAcSA",
  "cHAbVOWEL SIGN AAdIdIIdUdUUdVOCALIC ReRReLeLLdEdAIdOdAUbSIGN VIRAMAcAVAGRAHAcJIHVAMULIYA",
  "cUPADHMANIYAbOMbDANDAbDOUBLE DANDAbABBREVIATION SIGNbSEPARATORbSANDHI MARKbSIGN NUKTA",
  "bVOWEL MODIFIER MARKbEXTRA SHORT VOWEL MARKbSUTRA MARKbVOWEL SIGN PRISHTHAMATRA E",
  "bSIGN INVERTED CANDRABINDUbDIGIT ZEROcONEcTWOcTHREEcFOURcFIVEcSIXcSEVENcEIGHTcNINEbEKAM",
  "bSIGN SIDDHAMbHEADSTROKEbCONTINUATION SIGNbSECTION MARK-1cMARK-2",
  ".111E1aSINHALA ARCHAIC DIGIT ONEdTWOdTHREEdFOURdFIVEdSIXdSEVENdEIGHTdNINEcNUMBER TENdTWENTY",
  "dTHIRTYdFORTYdFIFTYdSIXTYdSEVENTYdEIGHTYdNINETYdONE HUNDREDeTHOUSAND.11200aKHOJKI LETTER AcAA",
  "cIcUcEcAIcOcAUcKAcKHAcGAcGGAcGHAcNGAcCAcCHAcJAcJJA.11213cNYAcTTAcTTHAcDDAcDDHAcNNAcTAcTHAcDA",
  "cDDDAcDHAcNAcPAcPHAcBAcBBAcBHAcMAcYAcRAcLAcVAcSAcHAcLLAbVOWEL SIGN AAdIdIIdUdEdAIdOdAU",
  "bSIGN ANUSVARAcVIRAMAcNUKTAcSHADDAbDANDAbDOUBLE DANDAbWORD SEPARATORbSECTION MARK",
  "bDOUBLE SECTION MARKbABBREVIATION SIGNbSIGN SUKUN.11280aMULTANI LETTER AcIcUcEcKAcKHAcGA",
  ".11288cGHA.1128AcCAcCHAcJAcJJA.1128FcNYAcTTAcTTHAcDDAcDDDAcDDHAcNNAcTAcTHAcDAcDHAcNAcPAcPHAcBA",
  ".1129FcBHAcMAcYAcRAcLAcVAcSAcHAcRRAcRHAbSECTION MARK.112B0aKHUDAWADI LETTER AcAAcIcIIcUcUUcE",
  "cAIcOcAUcKAcKHAcGAcGGAcGHAcNGAcCAcCHAcJAcJJAcJHAcNYAcTTAcTTHAcDDAcDDDAcRRAcDDHAcNNAcTAcTHAcDA",
  "cDHAcNAcPAcPHAcBAcBBAcBHAcMAcYAcRAcLAcVAcSHAcSAcHAbSIGN ANUSVARAbVOWEL SIGN AAdIdIIdUdUUdEdAI",
  "dOdAUbSIGN NUKTAcVIRAMA.112F0bDIGIT ZEROcONEcTWOcTHREEcFOURcFIVEcSIXcSEVENcEIGHTcNINE",
  ".11300aGRANTHA SIGN COMBINING ANUSVARA ABOVEcCANDRABINDUcANUSVARAcVISARGA.11305bLETTER AcAAcI",
  "cIIcUcUUcVOCALIC RdL.1130FcEEcAI.11313cOOcAUcKAcKHAcGAcGHAcNGAcCAcCHAcJAcJHAcNYAcTTAcTTHAcDDA",
  "cDDHAcNNAcTAcTHAcDAcDHAcNA.1132AcPAcPHAcBAcBHAcMAcYAcRA.11332cLAcLLA.11335cVAcSHAcSSAcSAcHA",
  ".1133BaCOMBINING BINDU BELOWaGRANTHA SIGN NUKTAcAVAGRAHAbVOWEL SIGN AAdIdIIdUdUUdVOCALIC ReRR",
  ".11347dEEdAI.1134BdOOdAUbSIGN VIRAMA.11350bOM.11357bAU LENGTH MARK.1135DbSIGN PLUTA",
  "bLETTER VEDIC ANUSVARAdDOUBLE ANUSVARAcVOCALIC RRdLLbVOWEL SIGN VOCALIC LeLL",
  ".11366aCOMBINING GRANTHA DIGIT ZEROdONEdTWOdTHREEdFOURdFIVEdSIX.11370cLETTER AdKAdNAdVIdPA",
  ".11400aNEWA LETTER AcAAcIcIIcUcUUcVOCALIC RdRRdLdLLcEcAIcOcAUcKAcKHAcGAcGHAcNGAcNGHAcCAcCHAcJA",
  "cJHAcNYAcNYHAcTTAcTTHAcDDAcDDHAcNNAcTAcTHAcDAcDHAcNAcNHAcPAcPHAcBAcBHAcMAcMHAcYAcRAcRHAcLAcLHA",
  "cWAcSHAcSSAcSAcHAbVOWEL SIGN AAdIdIIdUdUUdVOCALIC ReRReLeLLdEdAIdOdAUbSIGN VIRAMAcCANDRABINDU",
  "cANUSVARAcVISARGAcNUKTAcAVAGRAHAcFINAL ANUSVARAbOMbSIDDHIbDANDAbDOUBLE DANDAbCOMMAbGAP FILLER",
  "bABBREVIATION SIGNbDIGIT ZEROcONEcTWOcTHREEcFOURcFIVEcSIXcSEVENcEIGHTcNINEbDOUBLE COMMA",
  "bPLACEHOLDER MARK.1145DbINSERTION SIGNbSANDHI MARKbLETTER VEDIC ANUSVARAbSIGN JIHVAMULIYA",
  "cUPADHMANIYA.11480aTIRHUTA ANJIbLETTER AcAAcIcIIcUcUUcVOCALIC RdRRdLdLLcEcAIcOcAUcKAcKHAcGA",
  "cGHAcNGAcCAcCHAcJAcJHAcNYAcTTAcTTHAcDDAcDDHAcNNAcTAcTHAcDAcDHAcNAcPAcPHAcBAcBHAcMAcYAcRAcLAcVA",
  "cSHAcSSAcSAcHAbVOWEL SIGN AAdIdIIdUdUUdVOCALIC ReRReLeLLdEdSHORT EdAIdOdSHORT OdAU",
  "bSIGN CANDRABINDUcANUSVARAcVISARGAcVIRAMAcNUKTAcAVAGRAHAbGVANGbABBREVIATION SIGNbOM",
  ".114D0bDIGIT ZEROcONEcTWOcTHREEcFOURcFIVEcSIXcSEVENcEIGHTcNINE.11580aSIDDHAM LETTER AcAAcIcII",
  "cUcUUcVOCALIC RdRRdLdLLcEcAIcOcAUcKAcKHAcGAcGHAcNGAcCAcCHAcJAcJHAcNYAcTTAcTTHAcDDAcDDHAcNNAcTA",
  "cTHAcDAcDHAcNAcPAcPHAcBAcBHAcMAcYAcRAcLAcVAcSHAcSSAcSAcHAbVOWEL SIGN AAdIdIIdUdUUdVOCALIC ReRR",
  ".115B8dEdAIdOdAUbSIGN CANDRABINDUcANUSVARAcVISARGAcVIRAMAcNUKTAcSIDDHAMbDANDAbDOUBLE DANDA",
  "bSEPARATOR DOTcBARbREPETITION MARK-1cMARK-2cMARK-3bEND OF TEXT MARK",
  "bSECTION MARK WITH TRIDENT AND U-SHAPED ORNAMENTSgDOTTED CRESCENTSeRAYS AND DOTTED CRESCENTS",
  "hDOUBLE CRESCENTShTRIPLE CRESCENTSdDOUBLE RINGfWITH RAYSdWITH DOUBLE CRESCENTS",
  "eTRIPLE CRESCENTSeQUADRUPLE CRESCENTSeSEPTUPLE CRESCENTSeCIRCLES AND RAYSgTWO ENCLOSURES",
  "gFOUR ENCLOSURESbLETTER THREE-CIRCLE ALTERNATE IcTWO-CIRCLE ALTERNATE IeIIcALTERNATE U",
  "bVOWEL SIGN ALTERNATE UeUU.11600aMODI LETTER AcAAcIcIIcUcUUcVOCALIC RdRRdLdLLcEcAIcOcAUcKAcKHA",
  "cGAcGHAcNGAcCAcCHAcJAcJHAcNYAcTTAcTTHAcDDAcDDHAcNNAcTAcTHAcDAcDHAcNAcPAcPHAcBAcBHAcMAcYAcRAcLA",
  "cVAcSHAcSSAcSAcHAcLLAbVOWEL SIGN AAdIdIIdUdUUdVOCALIC ReRReLeLLdEdAIdOdAUbSIGN ANUSVARA",
  "cVISARGAcVIRAMAcARDHACANDRAbDANDAbDOUBLE DANDAbABBREVIATION SIGNbSIGN HUVA.11650bDIGIT ZERO",
  "cONEcTWOcTHREEcFOURcFIVEcSIXcSEVENcEIGHTcNINE.11660aMONGOLIAN BIRGA WITH ORNAMENT",
  "bROTATED BIRGAbDOUBLE BIRGA WITH ORNAMENTbTRIPLE BIRGA WITH ORNAMENT",
  "bBIRGA WITH DOUBLE ORNAMENTbROTATED BIRGA WITH ORNAMENTeDOUBLE ORNAMENTbINVERTED BIRGA",
  "dWITH DOUBLE ORNAMENTbSWIRL BIRGAdWITH ORNAMENTeDOUBLE ORNAMENT",
  "bTURNED SWIRL BIRGA WITH DOUBLE ORNAMENT.11680aTAKRI LETTER AcAAcIcIIcUcUUcEcAIcOcAUcKAcKHAcGA",
  "cGHAcNGAcCAcCHAcJAcJHAcNYAcTTAcTTHAcDDAcDDHAcNNAcTAcTHAcDAcDHAcNAcPAcPHAcBAcBHAcMAcYAcRAcLAcVA",
  "cSHAcSAcHAcRRAbSIGN ANUSVARAcVISARGAbVOWEL SIGN AAdIdIIdUdUUdEdAIdOdAUbSIGN VIRAMAcNUKTA",
  "bLETTER ARCHAIC KHAbABBREVIATION SIGN.116C0bDIGIT ZEROcONEcTWOcTHREEcFOURcFIVEcSIXcSEVENcEIGHT",
  "cNINE.11700aAHOM LETTER KAcKHAcNGAcNAcTAcALTERNATE TAcPAcPHAcBAcMAcJAcCHAcTHAcRAcLAcSAcNYAcHA",
  "cAcDAcDHAcGAcALTERNATE GAcGHAcBHAcJHAcALTERNATE BA.1171DbCONSONANT SIGN MEDIAL LAeRA",
  "eLIGATING RAbVOWEL SIGN AdAAdIdIIdUdUUdEdAWdOdAIdAMbSIGN KILLER.11730bDIGIT ZEROcONEcTWOcTHREE",
  "cFOURcFIVEcSIXcSEVENcEIGHTcNINEbNUMBER TENcTWENTYbSIGN SMALL SECTIONcSECTIONcRULAIbSYMBOL VI",
  "bLETTER CAcTTAcTTHAcDDAcDDHAcNNAcLLA.11800aDOGRA LETTER AcAAcIcIIcUcUUcEcAIcOcAUcKAcKHAcGAcGHA",
  "cNGAcCAcCHAcJAcJHAcNYAcTTAcTTHAcDDAcDDHAcNNAcTAcTHAcDAcDHAcNAcPAcPHAcBAcBHAcMAcYAcRAcLAcVAcSHA",
  "cSSAcSAcHAcRRAbVOWEL SIGN AAdIdIIdUdUUdVOCALIC ReRRdEdAIdOdAUbSIGN ANUSVARAcVISARGAcVIRAMA",
  "cNUKTAbABBREVIATION SIGN.118A0aWARANG CITI CAPITAL LETTER NGAAeAeWIeYUeYAeYOeIIeUUeEeOeANGeGA",
  "eKOeENYeYUJeUCeENNeODDeTTEeNUNGeDAeATeAMeBUePUeHIYOeHOLOeHORReHAReSSUUeSIIeVIYO",
  "cSMALL LETTER NGAAeAeWIeYUeYAeYOeIIeUUeEeOeANGeGAeKOeENYeYUJeUCeENNeODDeTTEeNUNGeDAeATeAMeBU",
  "ePUeHIYOeHOLOeHORReHAReSSUUeSIIeVIYOcDIGIT ZEROdONEdTWOdTHREEdFOURdFIVEdSIXdSEVENdEIGHTdNINE",
  "cNUMBER TENdTWENTYdTHIRTYdFORTYdFIFTYdSIXTYdSEVENTYdEIGHTYdNINETY.118FFcOM",
  "aDIVES AKURU LETTER AdAAdIdIIdUdUUdE.11909dO.1190CdKAdKHAdGAdGHAdNGAdCAdCHAdJA.11915dNYAdTTA",
  ".11918dDDAdDDHAdNNAdTAdTHAdDAdDHAdNAdPAdPHAdBAdBHAdMAdYAdYYAdRAdLAdVAdSHAdSSAdSAdHAdLLAdZA",
  "cVOWEL SIGN AAeIeIIeUeUUeE.11937eAIeO.1193BcSIGN ANUSVARAdCANDRABINDUdHALANTAcVIRAMA",
  "cPREFIXED NASAL SIGNcMEDIAL YAcINITIAL RAcMEDIAL RAcSIGN NUKTAcDOUBLE DANDAcGAP FILLER",
  "cEND OF TEXT MARK.11950cDIGIT ZEROdONEdTWOdTHREEdFOURdFIVEdSIXdSEVENdEIGHTdNINE",
  ".119A0aNANDINAGARI LETTER AcAAcIcIIcUcUUcVOCALIC RdRR.119AAcEcAIcOcAUcKAcKHAcGAcGHAcNGAcCAcCHA",
  "cJAcJHAcNYAcTTAcTTHAcDDAcDDHAcNNAcTAcTHAcDAcDHAcNAcPAcPHAcBAcBHAcMAcYAcRAcLAcVAcSHAcSSAcSAcHA",
  "cLLAcRRAbVOWEL SIGN AAdIdIIdUdUUdVOCALIC ReRR.119DAdEdAIdOdAUbSIGN ANUSVARAcVISARGAcVIRAMA",
  "cAVAGRAHAcSIDDHAMbHEADSTROKEbVOWEL SIGN PRISHTHAMATRA E.11A00aZANABAZAR SQUARE LETTER A",
  "cVOWEL SIGN IeUEeUeEeOEeOeAIeAUeREVERSED IdLENGTH MARKcLETTER KAdKHAdGAdGHAdNGAdCAdCHAdJAdNYA",
  "dTTAdTTHAdDDAdDDHAdNNAdTAdTHAdDAdDHAdNAdPAdPHAdBAdBHAdMAdTSAdTSHAdDZAdDZHAdZHAdZAd-AdYAdRAdLA",
  "dVAdSHAdSSAdSAdHAdKSSAcFINAL CONSONANT MARKcSIGN VIRAMAdCANDRABINDUeWITH ORNAMENT",
  "dCANDRA WITH ORNAMENTdANUSVARAdVISARGAcCLUSTER-INITIAL LETTER RAcCLUSTER-FINAL LETTER YAeRAeLA",
  "eVAcINITIAL HEAD MARKcCLOSING HEAD MARKcMARK TSHEGdSHADdDOUBLE SHADdLONG TSHEG",
  "cINITIAL DOUBLE-LINED HEAD MARKcCLOSING DOUBLE-LINED HEAD MARKcSUBJOINER",
  ".11A50aSOYOMBO LETTER AbVOWEL SIGN IdUEdUdEdOdOEdAIdAUdVOCALIC ReLcLENGTH MARKbLETTER KAcKHA",
  "cGAcGHAcNGAcCAcCHAcJAcJHAcNYAcTTAcTTHAcDDAcDDHAcNNAcTAcTHAcDAcDHAcNAcPAcPHAcBAcBHAcMAcTSAcTSHA",
  "cDZAcZHAcZAc-AcYAcRAcLAcVAcSHAcSSAcSAcHAcKSSAbSIGN JIHVAMULIYAcUPADHMANIYA",
  "bCLUSTER-INITIAL LETTER RAdLAdSHAdSAbFINAL CONSONANT SIGN GeKeNGeDeNeBeMeReLeSHeSe-A",
  "bSIGN ANUSVARAcVISARGAbGEMINATION MARKbSUBJOINERbMARK TSHEGcSHADcDOUBLE SHADcPLUTA",
  "bHEAD MARK WITH MOON AND SUN AND TRIPLE FLAMEiFLAMEhbTERMINAL MARK-1cMARK-2",
  ".11AB0aCANADIAN SYLLABICS NATTILIK HIdHIIdHOdHOOdHAdHAAdSHRIdSHRIIdSHROdSHROOdSHRAdSHRAAcSPE",
  "cSPIcSPOcSPAaPAU CIN HAU LETTER PAeKAeLAeMAeDAeZAeVAeNGAeHAeGAeKHAeSAeBAeCAeTAeTHAeNAePHAeRA",
  "eFAeCHAeAeEeIeOeUeUAeIAeFINAL PfKfTfMfNfLfWfNGfYdRISING TONE LONGfdSANDHI GLOTTAL STOP",
  "dRISING TONE LONG FINALfFINALdSANDHI GLOTTAL STOP FINALeTONE LONGffLONG FINALfFINAL",
  "dMID-LEVEL TONEdGLOTTAL STOP VARIANTdMID-LEVEL TONE LONG FINALfFINALdLOW-FALLING TONE LONGf",
  "dGLOTTAL STOPdLOW-FALLING TONE LONG FINALfFINALdGLOTTAL STOP FINAL.11C00aBHAIKSUKI LETTER AcAA",
  "cIcIIcUcUUcVOCALIC RdRRdL.11C0AcEcAIcOcAUcKAcKHAcGAcGHAcNGAcCAcCHAcJAcJHAcNYAcTTAcTTHAcDDA",
  "cDDHAcNNAcTAcTHAcDAcDHAcNAcPAcPHAcBAcBHAcMAcYAcRAcLAcVAcSHAcSSAcSAcHAbVOWEL SIGN AAdIdIIdUdUU",
  "dVOCALIC ReRReL.11C38dEdAIdOdAUbSIGN CANDRABINDUcANUSVARAcVISARGAcVIRAMAcAVAGRAHAbDANDA",
  "bDOUBLE DANDAbWORD SEPARATORbGAP FILLER-1cFILLER-2.11C50bDIGIT ZEROcONEcTWOcTHREEcFOURcFIVE",
  "cSIXcSEVENcEIGHTcNINEbNUMBER ONEcTWOcTHREEcFOURcFIVEcSIXcSEVENcEIGHTcNINEcTENcTWENTYcTHIRTY",
  "cFORTYcFIFTYcSIXTYcSEVENTYcEIGHTYcNINETYbHUNDREDS UNIT MARK.11C70aMARCHEN HEAD MARKbMARK SHAD",
  "bLETTER KAcKHAcGAcNGAcCAcCHAcJAcNYAcTAcTHAcDAcNAcPAcPHAcBAcMAcTSAcTSHAcDZAcWAcZHAcZAc-AcYAcRA",
  "cLAcSHAcSAcHAcA.11C92bSUBJOINED LETTER KAdKHAdGAdNGAdCAdCHAdJAdNYAdTAdTHAdDAdNAdPAdPHAdBAdMA",
  "dTSAdTSHAdDZAdWAdZHAdZA.11CA9dYAdRAdLAdSHAdSAdHAdAbVOWEL SIGN AAdIdUdEdObSIGN ANUSVARA",
  "cCANDRABINDU.11D00aMASARAM GONDI LETTER AdAAdIdIIdUdUUdE.11D08dAIdO.11D0BdAUdKAdKHAdGAdGHAdNGA",
  "dCAdCHAdJAdJHAdNYAdTTAdTTHAdDDAdDDHAdNNAdTAdTHAdDAdDHAdNAdPAdPHAdBAdBHAdMAdYAdRAdLAdVAdSHAdSSA",
  "dSAdHAdLLAdKSSAdJNYAdTRAcVOWEL SIGN AAeIeIIeUeUUeVOCALIC R.11D3AeE.11D3CeAIeO.11D3FeAU",
  "cSIGN ANUSVARAdVISARGAdNUKTAdCANDRAdHALANTAcVIRAMAcREPHAcRA-KARA.11D50cDIGIT ZEROdONEdTWO",
  "dTHREEdFOURdFIVEdSIXdSEVENdEIGHTdNINE.11D60aGUNJALA GONDI LETTER AdAAdIdIIdUdUU.11D67dEEdAI",
  ".11D6AdOOdAUdYAdVAdBAdBHAdMAdKAdKHAdTAdTHAdLAdGAdGHAdDAdDHAdNAdCAdCHAdTTAdTTHAdLLAdJAdJHAdDDA",
  "dDDHAdNGAdPAdPHAdHAdRAdSAcVOWEL SIGN AAeIeIIeUeUU.11D90eEEeAI.11D93eOOeAUcSIGN ANUSVARA",
  "dVISARGAcVIRAMAcOM.11DA0cDIGIT ZEROdONEdTWOdTHREEdFOURdFIVEdSIXdSEVENdEIGHTdNINE",
  ".11EE0aMAKASAR LETTER KAcGAcNGAcPAcBAcMAcTAcDAcNAcCAcJAcNYAcYAcRAcLAcVAcSAcAbANGKA",
  "bVOWEL SIGN IdUdEdObPASSIMBANGbEND OF SECTION.11FB0aLISU LETTER YHA",
  ".11FC0aTAMIL FRACTION ONE THREE-HUNDRED-AND-TWENTIETHdONE-HUNDRED-AND-SIXTIETHdEIGHTIETH",
  "dSIXTY-FOURTHdFORTIETHdTHIRTY-SECONDcTHREE EIGHTIETHSdSIXTY-FOURTHScONE TWENTIETHdSIXTEENTH-1",
  "dSIXTEENTH-2dTENTHdEIGHTHcTHREE TWENTIETHSdSIXTEENTHScONE FIFTHdQUARTERdHALF-1dHALF-2",
  "cTHREE QUARTERScDOWNSCALING FACTOR KIIZHbSIGN NELcCEVITUcAAZHAAKKUcUZHAKKUcMUUVUZHAKKUcKURUNI",
  "cPATHAKKUcMUKKURUNIcKAACUcPANAMcPONcVARAAKANcPAARAMcKUZHIcVELIbWET CULTIVATION SIGN",
  "bDRY CULTIVATION SIGNbLAND SIGNbSALT PAN SIGNbTRADITIONAL CREDIT SIGNcNUMBER SIGNbCURRENT SIGN",
  "bAND ODD SIGNbSPENT SIGNbTOTAL SIGNbIN POSSESSION SIGNbSTARTING FROM SIGNbSIGN MUTHALIYA",
  "cVAKAIYARAA.11FFFbPUNCTUATION END OF TEXT"]

end Literate.Text
