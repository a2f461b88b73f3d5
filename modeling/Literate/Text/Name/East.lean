/-! Names of characters from U+3000 on, below U+10000: scripts of East Asia and compatibility forms.
-/

namespace Literate.Text

/-- each name behind what it shares with the one before -/
def eastNames : List String := [
  ".3000aIDEOGRAPHIC SPACEbCOMMAbFULL STOPaDITTO MARKaJAPANESE INDUSTRIAL STANDARD SYMBOL",
  "aIDEOGRAPHIC ITERATION MARKbCLOSING MARKbNUMBER ZEROaLEFT ANGLE BRACKETaRIGHT ANGLE BRACKET",
  "aLEFT DOUBLE ANGLE BRACKETaRIGHT DOUBLE ANGLE BRACKETaLEFT CORNER BRACKETaRIGHT CORNER BRACKET",
  "aLEFT WHITE CORNER BRACKETaRIGHT WHITE CORNER BRACKETaLEFT BLACK LENTICULAR BRACKET",
  "aRIGHT BLACK LENTICULAR BRACKETaPOSTAL MARKaGETA MARKaLEFT TORTOISE SHELL BRACKET",
  "aRIGHT TORTOISE SHELL BRACKETaLEFT WHITE LENTICULAR BRACKETaRIGHT WHITE LENTICULAR BRACKET",
  "aLEFT WHITE TORTOISE SHELL BRACKETaRIGHT WHITE TORTOISE SHELL BRACKET",
  "aLEFT WHITE SQUARE BRACKETaRIGHT WHITE SQUARE BRACKETaWAVE DASH",
  "aREVERSED DOUBLE PRIME QUOTATION MARKaDOUBLE PRIME QUOTATION MARK",
  "aLOW DOUBLE PRIME QUOTATION MARKaPOSTAL MARK FACEaHANGZHOU NUMERAL ONEcTWOcTHREEcFOURcFIVEcSIX",
  "cSEVENcEIGHTcNINEaIDEOGRAPHIC LEVEL TONE MARKbRISING TONE MARKbDEPARTING TONE MARK",
  "bENTERING TONE MARKaHANGUL SINGLE DOT TONE MARKbDOUBLE DOT TONE MARKaWAVY DASH",
  "aVERTICAL KANA REPEAT MARKdWITH VOICED SOUND MARKdMARK UPPER HALF",
  "dWITH VOICED SOUND MARK UPPER HALFdMARK LOWER HALFaCIRCLED POSTAL MARK",
  "aIDEOGRAPHIC TELEGRAPH LINE FEED SEPARATOR SYMBOLaHANGZHOU NUMERAL TENcTWENTYcTHIRTY",
  "aVERTICAL IDEOGRAPHIC ITERATION MARKaMASU MARKaPART ALTERNATION MARK",
  "aIDEOGRAPHIC VARIATION INDICATORbHALF FILL SPACE.3041aHIRAGANA LETTER SMALL AcAcSMALL IcI",
  "cSMALL UcUcSMALL EcEcSMALL OcOcKAcGAcKIcGIcKUcGUcKEcGEcKOcGOcSAcZAcSIcZIcSUcZUcSEcZEcSOcZOcTA",
  "cDAcTIcDIcSMALL TUcTUcDUcTEcDEcTOcDOcNAcNIcNUcNEcNOcHAcBAcPAcHIcBIcPIcHUcBUcPUcHEcBEcPEcHOcBO",
  "cPOcMAcMIcMUcMEcMOcSMALL YAcYAcSMALL YUcYUcSMALL YOcYOcRAcRIcRUcREcROcSMALL WAcWAcWIcWEcWOcN",
  "cVUcSMALL KAdKE.3099aCOMBINING KATAKANA-HIRAGANA VOICED SOUND MARKcSEMI-VOICED SOUND MARK",
  "aKATAKANA-HIRAGANA VOICED SOUND MARKbSEMI-VOICED SOUND MARKaHIRAGANA ITERATION MARK",
  "bVOICED ITERATION MARKbDIGRAPH YORIaKATAKANA-HIRAGANA DOUBLE HYPHENaKATAKANA LETTER SMALL AcA",
  "cSMALL IcIcSMALL UcUcSMALL EcEcSMALL OcOcKAcGAcKIcGIcKUcGUcKEcGEcKOcGOcSAcZAcSIcZIcSUcZUcSEcZE",
  "cSOcZOcTAcDAcTIcDIcSMALL TUcTUcDUcTEcDEcTOcDOcNAcNIcNUcNEcNOcHAcBAcPAcHIcBIcPIcHUcBUcPUcHEcBE",
  "cPEcHOcBOcPOcMAcMIcMUcMEcMOcSMALL YAcYAcSMALL YUcYUcSMALL YOcYOcRAcRIcRUcREcROcSMALL WAcWAcWI",
  "cWEcWOcNcVUcSMALL KAdKEcVAcVIcVEcVObMIDDLE DOTaKATAKANA-HIRAGANA PROLONGED SOUND MARK",
  "aKATAKANA ITERATION MARKbVOICED ITERATION MARKbDIGRAPH KOTO.3105aBOPOMOFO LETTER BcPcMcFcDcTcN",
  "cLcGcKcHcJcQcXcZHcCHcSHcRcZcCcScAcOcEcEHcAIcEIcAUcOUcANcENcANGcENGcERcIcUcIUcVcNGcGNcIH",
  "cO WITH DOT ABOVEcNN.3131aHANGUL LETTER KIYEOKcSSANGKIYEOKcKIYEOK-SIOScNIEUNcNIEUN-CIEUC",
  "cNIEUN-HIEUHcTIKEUTcSSANGTIKEUTcRIEULcRIEUL-KIYEOKcRIEUL-MIEUMcRIEUL-PIEUPcRIEUL-SIOS",
  "cRIEUL-THIEUTHcRIEUL-PHIEUPHcRIEUL-HIEUHcMIEUMcPIEUPcSSANGPIEUPcPIEUP-SIOScSIOScSSANGSIOS",
  "cIEUNGcCIEUCcSSANGCIEUCcCHIEUCHcKHIEUKHcTHIEUTHcPHIEUPHcHIEUHcAcAEcYAcYAEcEOcEcYEOcYEcOcWAcWAE",
  "cOEcYOcUcWEOcWEcWIcYUcEUcYIcIbFILLERbLETTER SSANGNIEUNcNIEUN-TIKEUTcNIEUN-SIOScNIEUN-PANSIOS",
  "cRIEUL-KIYEOK-SIOScRIEUL-TIKEUTcRIEUL-PIEUP-SIOScRIEUL-PANSIOScRIEUL-YEORINHIEUHcMIEUM-PIEUP",
  "cMIEUM-SIOScMIEUM-PANSIOScKAPYEOUNMIEUMcPIEUP-KIYEOKcPIEUP-TIKEUTcPIEUP-SIOS-KIYEOK",
  "cPIEUP-SIOS-TIKEUTcPIEUP-CIEUCcPIEUP-THIEUTHcKAPYEOUNPIEUPcKAPYEOUNSSANGPIEUPcSIOS-KIYEOK",
  "cSIOS-NIEUNcSIOS-TIKEUTcSIOS-PIEUPcSIOS-CIEUCcPANSIOScSSANGIEUNGcYESIEUNGcYESIEUNG-SIOS",
  "cYESIEUNG-PANSIOScKAPYEOUNPHIEUPHcSSANGHIEUHcYEORINHIEUHcYO-YAcYO-YAEcYO-IcYU-YEOcYU-YEcYU-I",
  "cARAEAcARAEAE.3190aIDEOGRAPHIC ANNOTATION LINKING MARKcREVERSE MARKcONE MARKcTWO MARK",
  "cTHREE MARKcFOUR MARKcTOP MARKcMIDDLE MARKcBOTTOM MARKcFIRST MARKcSECOND MARKcTHIRD MARK",
  "cFOURTH MARKcHEAVEN MARKcEARTH MARKcMAN MARKaBOPOMOFO LETTER BUcZIcJIcGUcEEcENNcOOcONNcIRcANN",
  "cINNcUNNcIMcNGGcAINNcAUNNcAMcOMcONGcINNNbFINAL LETTER PdTdKdHbLETTER GHcLHcZYbFINAL LETTER G",
  "bLETTER GWcKWcOEcAHaCJK STROKE TcWGcXGcBXGcSWcHZZcHZGcHPcHZWGcSZWGcHZTcHZZPcHPWGcHZWcHZZZcNcH",
  "cScPcSPcDcHZcHGcSZcSWZcSTcSGcPDcPZcTNcSZZcSWGcHXWGcHZZZGcPGcQ.31F0aKATAKANA LETTER SMALL KUdSI",
  "dSUdTOdNUdHAdHIdHUdHEdHOdMUdRAdRIdRUdREdROaPARENTHESIZED HANGUL KIYEOKcNIEUNcTIKEUTcRIEUL",
  "cMIEUMcPIEUPcSIOScIEUNGcCIEUCcCHIEUCHcKHIEUKHcTHIEUTHcPHIEUPHcHIEUHcKIYEOK AcNIEUN AcTIKEUT A",
  "cRIEUL AcMIEUM AcPIEUP AcSIOS AcIEUNG AcCIEUC AcCHIEUCH AcKHIEUKH AcTHIEUTH AcPHIEUPH A",
  "cHIEUH AcCIEUC UbKOREAN CHARACTER OJEONdO HU.3220bIDEOGRAPH ONEcTWOcTHREEcFOURcFIVEcSIXcSEVEN",
  "cEIGHTcNINEcTENcMOONcFIREcWATERcWOODcMETALcEARTHcSUNcSTOCKcHAVEcSOCIETYcNAMEcSPECIALcFINANCIAL",
  "cCONGRATULATIONcLABORcREPRESENTcCALLcSTUDYcSUPERVISEcENTERPRISEcRESOURCEcALLIANCEcFESTIVAL",
  "cRESTcSELFcREACHaCIRCLED IDEOGRAPH QUESTIONcKINDERGARTENcSCHOOLcKOTO",
  "bNUMBER TEN ON BLACK SQUAREcTWENTY ON BLACK SQUAREcTHIRTY ON BLACK SQUARE",
  "cFORTY ON BLACK SQUAREcFIFTY ON BLACK SQUAREcSIXTY ON BLACK SQUAREcSEVENTY ON BLACK SQUARE",
  "cEIGHTY ON BLACK SQUAREaPARTNERSHIP SIGNaCIRCLED NUMBER TWENTY ONEdTWOdTHREEdFOURdFIVEdSIX",
  "dSEVENdEIGHTdNINEcTHIRTYdONEdTWOdTHREEdFOURdFIVEbHANGUL KIYEOKcNIEUNcTIKEUTcRIEULcMIEUMcPIEUP",
  "cSIOScIEUNGcCIEUCcCHIEUCHcKHIEUKHcTHIEUTHcPHIEUPHcHIEUHcKIYEOK AcNIEUN AcTIKEUT AcRIEUL A",
  "cMIEUM AcPIEUP AcSIOS AcIEUNG AcCIEUC AcCHIEUCH AcKHIEUKH AcTHIEUTH AcPHIEUPH AcHIEUH A",
  "bKOREAN CHARACTER CHAMKOdJUEUIbHANGUL IEUNG UaKOREAN STANDARD SYMBOLaCIRCLED IDEOGRAPH ONEcTWO",
  "cTHREEcFOURcFIVEcSIXcSEVENcEIGHTcNINEcTENcMOONcFIREcWATERcWOODcMETALcEARTHcSUNcSTOCKcHAVE",
  "cSOCIETYcNAMEcSPECIALcFINANCIALcCONGRATULATIONcLABORcSECRETcMALEcFEMALEcSUITABLEcEXCELLENT",
  "cPRINTcATTENTIONcITEMcRESTcCOPYcCORRECTcHIGHcCENTREcLOWcLEFTcRIGHTcMEDICINEcRELIGIONcSTUDY",
  "cSUPERVISEcENTERPRISEcRESOURCEcALLIANCEcNIGHTbNUMBER THIRTY SIXdSEVENdEIGHTdNINEcFORTYdONEdTWO",
  "dTHREEdFOURdFIVEdSIXdSEVENdEIGHTdNINEcFIFTYaIDEOGRAPHIC TELEGRAPH SYMBOL FOR JANUARYeFEBRUARY",
  "eMARCHeAPRILeMAYeJUNEeJULYeAUGUSTeSEPTEMBEReOCTOBEReNOVEMBEReDECEMBERaSQUARE HGbERGbEV",
  "aLIMITED LIABILITY SIGNaCIRCLED KATAKANA AcIcUcEcOcKAcKIcKUcKEcKOcSAcSIcSUcSEcSOcTAcTIcTUcTE",
  "cTOcNAcNIcNUcNEcNOcHAcHIcHUcHEcHOcMAcMIcMUcMEcMOcYAcYUcYOcRAcRIcRUcREcROcWAcWIcWEcWO",
  "aSQUARE ERA NAME REIWAbAPAATObARUHUAbANPEAbAARUbININGUbINTIbUONbESUKUUDObEEKAAbONSUbOOMUbKAIRI",
  "bKARATTObKARORIIbGARONbGANMAbGIGAbGINIIbKYURIIbGIRUDAAbKIRObKIROGURAMUbKIROMEETORUbKIROWATTO",
  "bGURAMUbGURAMUTONbKURUZEIRObKUROONEbKEESUbKORUNAbKOOPObSAIKURUbSANTIIMUbSIRINGUbSENTIbSENTO",
  "bDAASUbDESIbDORUbTONbNANObNOTTObHAITUbPAASENTObPAATUbBAARERUbPIASUTORUbPIKURUbPIKObBIRU",
  "bHUARADDObHUIITObBUSSYERUbHURANbHEKUTAARUbPESObPENIHIbHERUTUbPENSUbPEEZIbBEETAbPOINTObBORUTO",
  "bHONbPONDObHOORUbHOONbMAIKURObMAIRUbMAHHAbMARUKUbMANSYONbMIKURONbMIRIbMIRIBAARUbMEGAbMEGATON",
  "bMEETORUbYAADObYAARUbYUANbRITTORUbRIRAbRUPIIbRUUBURUbREMUbRENTOGENbWATTO",
  "aIDEOGRAPHIC TELEGRAPH SYMBOL FOR HOUR ZEROfONEfTWOfTHREEfFOURfFIVEfSIXfSEVENfEIGHTfNINEfTEN",
  "fELEVENfTWELVEfTHIRTEENfFOURTEENfFIFTEENfSIXTEENfSEVENTEENfEIGHTEENfNINETEENfTWENTYfTWENTY-ONE",
  "fTWENTY-TWOfTWENTY-THREEfTWENTY-FOURaSQUARE HPAbDAbAUbBARbOVbPCbDMcSQUAREDcCUBEDbIU",
  "bERA NAME HEISEIdSYOUWAdTAISYOUdMEIZIbCORPORATIONbPA AMPSbNAbMU AbMAbKAbKBbMBbGBbCALbKCALbPF",
  "bNFbMU FcGbMGbKGbHZbKHZbMHZbGHZbTHZbMU LbMLbDLbKLbFMbNMbMU MbMMbCMbKMbMM SQUAREDbCM SQUARED",
  "bM SQUAREDbKM SQUAREDbMM CUBEDbCM CUBEDbM CUBEDbKM CUBEDbM OVER SeSQUAREDbPAbKPAbMPAbGPAbRAD",
  "cOVER SeSQUAREDbPSbNSbMU SbMSbPVbNVbMU VbMVbKVbMV MEGAbPWbNWbMU WbMWbKWbMW MEGAbK OHMbM OHMbAM",
  "bBQbCCbCDbC OVER KGbCObDBbGYbHAbHPbINbKKbKM CAPITALbKTbLMbLNbLOGbLXbMB SMALLbMILbMOLbPHbPMbPPM",
  "bPRbSRbSVbWBbV OVER MbA OVER MaIDEOGRAPHIC TELEGRAPH SYMBOL FOR DAY ONEfTWOfTHREEfFOURfFIVE",
  "fSIXfSEVENfEIGHTfNINEfTENfELEVENfTWELVEfTHIRTEENfFOURTEENfFIFTEENfSIXTEENfSEVENTEENfEIGHTEEN",
  "fNINETEENfTWENTYfTWENTY-ONEfTWENTY-TWOfTWENTY-THREEfTWENTY-FOURfTWENTY-FIVEfTWENTY-SIX",
  "fTWENTY-SEVENfTWENTY-EIGHTfTWENTY-NINEfTHIRTYfTHIRTY-ONEaSQUARE GAL",
  ".4DC0aHEXAGRAM FOR THE CREATIVE HEAVENdRECEPTIVE EARTHcDIFFICULTY AT THE BEGINNING",
  "cYOUTHFUL FOLLYcWAITINGcCONFLICTcTHE ARMYcHOLDING TOGETHERcSMALL TAMINGcTREADINGcPEACE",
  "cSTANDSTILLcFELLOWSHIPcGREAT POSSESSIONcMODESTYcENTHUSIASMcFOLLOWINGcWORK ON THE DECAYED",
  "cAPPROACHcCONTEMPLATIONcBITING THROUGHcGRACEcSPLITTING APARTcRETURNcINNOCENCEcGREAT TAMING",
  "cMOUTH CORNERScGREAT PREPONDERANCEcTHE ABYSMAL WATERdCLINGING FIREcINFLUENCEcDURATIONcRETREAT",
  "cGREAT POWERcPROGRESScDARKENING OF THE LIGHTcTHE FAMILYcOPPOSITIONcOBSTRUCTIONcDELIVERANCE",
  "cDECREASEcINCREASEcBREAKTHROUGHcCOMING TO MEETcGATHERING TOGETHERcPUSHING UPWARDcOPPRESSION",
  "cTHE WELLcREVOLUTIONcTHE CAULDRONdAROUSING THUNDERdKEEPING STILL MOUNTAINcDEVELOPMENT",
  "cTHE MARRYING MAIDENcABUNDANCEcTHE WANDERERdGENTLE WINDdJOYOUS LAKEcDISPERSIONcLIMITATION",
  "cINNER TRUTHcSMALL PREPONDERANCEcAFTER COMPLETIONcBEFORE COMPLETION.A000aYI SYLLABLE ITcIXcI",
  "cIPcIETcIEXcIEcIEPcATcAXcAcAPcUOXcUOcUOPcOTcOXcOcOPcEXcEcWUcBITcBIXcBIcBIPcBIETcBIEXcBIEcBIEP",
  "cBATcBAXcBAcBAPcBUOXcBUOcBUOPcBOTcBOXcBOcBOPcBEXcBEcBEPcBUTcBUXcBUcBUPcBURXcBURcBYTcBYXcBYcBYP",
  "cBYRXcBYRcPITcPIXcPIcPIPcPIEXcPIEcPIEPcPATcPAXcPAcPAPcPUOXcPUOcPUOPcPOTcPOXcPOcPOPcPUTcPUXcPU",
  "cPUPcPURXcPURcPYTcPYXcPYcPYPcPYRXcPYRcBBITcBBIXcBBIcBBIPcBBIETcBBIEXcBBIEcBBIEPcBBATcBBAXcBBA",
  "cBBAPcBBUOXcBBUOcBBUOPcBBOTcBBOXcBBOcBBOPcBBEXcBBEcBBEPcBBUTcBBUXcBBUcBBUPcBBURXcBBURcBBYT",
  "cBBYXcBBYcBBYPcNBITcNBIXcNBIcNBIPcNBIEXcNBIEcNBIEPcNBATcNBAXcNBAcNBAPcNBOTcNBOXcNBOcNBOPcNBUT",
  "cNBUXcNBUcNBUPcNBURXcNBURcNBYTcNBYXcNBYcNBYPcNBYRXcNBYRcHMITcHMIXcHMIcHMIPcHMIEXcHMIEcHMIEP",
  "cHMATcHMAXcHMAcHMAPcHMUOXcHMUOcHMUOPcHMOTcHMOXcHMOcHMOPcHMUTcHMUXcHMUcHMUPcHMURXcHMURcHMYXcHMY",
  "cHMYPcHMYRXcHMYRcMITcMIXcMIcMIPcMIEXcMIEcMIEPcMATcMAXcMAcMAPcMUOTcMUOXcMUOcMUOPcMOTcMOXcMOcMOP",
  "cMEXcMEcMUTcMUXcMUcMUPcMURXcMURcMYTcMYXcMYcMYPcFITcFIXcFIcFIPcFATcFAXcFAcFAPcFOXcFOcFOPcFUT",
  "cFUXcFUcFUPcFURXcFURcFYTcFYXcFYcFYPcVITcVIXcVIcVIPcVIETcVIEXcVIEcVIEPcVATcVAXcVAcVAPcVOTcVOX",
  "cVOcVOPcVEXcVEPcVUTcVUXcVUcVUPcVURXcVURcVYTcVYXcVYcVYPcVYRXcVYRcDITcDIXcDIcDIPcDIEXcDIEcDIEP",
  "cDATcDAXcDAcDAPcDUOXcDUOcDOTcDOXcDOcDOPcDEXcDEcDEPcDUTcDUXcDUcDUPcDURXcDURcTITcTIXcTIcTIPcTIEX",
  "cTIEcTIEPcTATcTAXcTAcTAPcTUOTcTUOXcTUOcTUOPcTOTcTOXcTOcTOPcTEXcTEcTEPcTUTcTUXcTUcTUPcTURXcTUR",
  "cDDITcDDIXcDDIcDDIPcDDIEXcDDIEcDDIEPcDDATcDDAXcDDAcDDAPcDDUOXcDDUOcDDUOPcDDOTcDDOXcDDOcDDOP",
  "cDDEXcDDEcDDEPcDDUTcDDUXcDDUcDDUPcDDURXcDDURcNDITcNDIXcNDIcNDIPcNDIEXcNDIEcNDATcNDAXcNDAcNDAP",
  "cNDOTcNDOXcNDOcNDOPcNDEXcNDEcNDEPcNDUTcNDUXcNDUcNDUPcNDURXcNDURcHNITcHNIXcHNIcHNIPcHNIETcHNIEX",
  "cHNIEcHNIEPcHNATcHNAXcHNAcHNAPcHNUOXcHNUOcHNOTcHNOXcHNOPcHNEXcHNEcHNEPcHNUTcNITcNIXcNIcNIP",
  "cNIEXcNIEcNIEPcNAXcNAcNAPcNUOXcNUOcNUOPcNOTcNOXcNOcNOPcNEXcNEcNEPcNUTcNUXcNUcNUPcNURXcNURcHLIT",
  "cHLIXcHLIcHLIPcHLIEXcHLIEcHLIEPcHLATcHLAXcHLAcHLAPcHLUOXcHLUOcHLUOPcHLOXcHLOcHLOPcHLEXcHLE",
  "cHLEPcHLUTcHLUXcHLUcHLUPcHLURXcHLURcHLYTcHLYXcHLYcHLYPcHLYRXcHLYRcLITcLIXcLIcLIPcLIETcLIEXcLIE",
  "cLIEPcLATcLAXcLAcLAPcLUOTcLUOXcLUOcLUOPcLOTcLOXcLOcLOPcLEXcLEcLEPcLUTcLUXcLUcLUPcLURXcLURcLYT",
  "cLYXcLYcLYPcLYRXcLYRcGITcGIXcGIcGIPcGIETcGIEXcGIEcGIEPcGATcGAXcGAcGAPcGUOTcGUOXcGUOcGUOPcGOT",
  "cGOXcGOcGOPcGETcGEXcGEcGEPcGUTcGUXcGUcGUPcGURXcGURcKITcKIXcKIcKIPcKIEXcKIEcKIEPcKATcKAXcKAcKAP",
  "cKUOXcKUOcKUOPcKOTcKOXcKOcKOPcKETcKEXcKEcKEPcKUTcKUXcKUcKUPcKURXcKURcGGITcGGIXcGGIcGGIEXcGGIE",
  "cGGIEPcGGATcGGAXcGGAcGGAPcGGUOTcGGUOXcGGUOcGGUOPcGGOTcGGOXcGGOcGGOPcGGETcGGEXcGGEcGGEPcGGUT",
  "cGGUXcGGUcGGUPcGGURXcGGURcMGIEXcMGIEcMGATcMGAXcMGAcMGAPcMGUOXcMGUOcMGUOPcMGOTcMGOXcMGOcMGOP",
  "cMGEXcMGEcMGEPcMGUTcMGUXcMGUcMGUPcMGURXcMGURcHXITcHXIXcHXIcHXIPcHXIETcHXIEXcHXIEcHXIEPcHXAT",
  "cHXAXcHXAcHXAPcHXUOTcHXUOXcHXUOcHXUOPcHXOTcHXOXcHXOcHXOPcHXEXcHXEcHXEPcNGIEXcNGIEcNGIEPcNGAT",
  "cNGAXcNGAcNGAPcNGUOTcNGUOXcNGUOcNGOTcNGOXcNGOcNGOPcNGEXcNGEcNGEPcHITcHIEXcHIEcHATcHAXcHAcHAP",
  "cHUOTcHUOXcHUOcHUOPcHOTcHOXcHOcHOPcHEXcHEcHEPcWATcWAXcWAcWAPcWUOXcWUOcWUOPcWOXcWOcWOPcWEXcWE",
  "cWEPcZITcZIXcZIcZIPcZIEXcZIEcZIEPcZATcZAXcZAcZAPcZUOXcZUOcZUOPcZOTcZOXcZOcZOPcZEXcZEcZEPcZUT",
  "cZUXcZUcZUPcZURXcZURcZYTcZYXcZYcZYPcZYRXcZYRcCITcCIXcCIcCIPcCIETcCIEXcCIEcCIEPcCATcCAXcCAcCAP",
  "cCUOXcCUOcCUOPcCOTcCOXcCOcCOPcCEXcCEcCEPcCUTcCUXcCUcCUPcCURXcCURcCYTcCYXcCYcCYPcCYRXcCYRcZZIT",
  "cZZIXcZZIcZZIPcZZIETcZZIEXcZZIEcZZIEPcZZATcZZAXcZZAcZZAPcZZOXcZZOcZZOPcZZEXcZZEcZZEPcZZUXcZZU",
  "cZZUPcZZURXcZZURcZZYTcZZYXcZZYcZZYPcZZYRXcZZYRcNZITcNZIXcNZIcNZIPcNZIEXcNZIEcNZIEPcNZATcNZAX",
  "cNZAcNZAPcNZUOXcNZUOcNZOXcNZOPcNZEXcNZEcNZUXcNZUcNZUPcNZURXcNZURcNZYTcNZYXcNZYcNZYPcNZYRXcNZYR",
  "cSITcSIXcSIcSIPcSIEXcSIEcSIEPcSATcSAXcSAcSAPcSUOXcSUOcSUOPcSOTcSOXcSOcSOPcSEXcSEcSEPcSUTcSUX",
  "cSUcSUPcSURXcSURcSYTcSYXcSYcSYPcSYRXcSYRcSSITcSSIXcSSIcSSIPcSSIEXcSSIEcSSIEPcSSATcSSAXcSSA",
  "cSSAPcSSOTcSSOXcSSOcSSOPcSSEXcSSEcSSEPcSSUTcSSUXcSSUcSSUPcSSYTcSSYXcSSYcSSYPcSSYRXcSSYRcZHAT",
  "cZHAXcZHAcZHAPcZHUOXcZHUOcZHUOPcZHOTcZHOXcZHOcZHOPcZHETcZHEXcZHEcZHEPcZHUTcZHUXcZHUcZHUPcZHURX",
  "cZHURcZHYTcZHYXcZHYcZHYPcZHYRXcZHYRcCHATcCHAXcCHAcCHAPcCHUOTcCHUOXcCHUOcCHUOPcCHOTcCHOXcCHO",
  "cCHOPcCHETcCHEXcCHEcCHEPcCHUXcCHUcCHUPcCHURXcCHURcCHYTcCHYXcCHYcCHYPcCHYRXcCHYRcRRAXcRRAcRRUOX",
  "cRRUOcRROTcRROXcRROcRROPcRRETcRREXcRREcRREPcRRUTcRRUXcRRUcRRUPcRRURXcRRURcRRYTcRRYXcRRYcRRYP",
  "cRRYRXcRRYRcNRATcNRAXcNRAcNRAPcNROXcNROcNROPcNRETcNREXcNREcNREPcNRUTcNRUXcNRUcNRUPcNRURXcNRUR",
  "cNRYTcNRYXcNRYcNRYPcNRYRXcNRYRcSHATcSHAXcSHAcSHAPcSHUOXcSHUOcSHUOPcSHOTcSHOXcSHOcSHOPcSHET",
  "cSHEXcSHEcSHEPcSHUTcSHUXcSHUcSHUPcSHURXcSHURcSHYTcSHYXcSHYcSHYPcSHYRXcSHYRcRATcRAXcRAcRAPcRUOX",
  "cRUOcRUOPcROTcROXcROcROPcREXcREcREPcRUTcRUXcRUcRUPcRURXcRURcRYTcRYXcRYcRYPcRYRXcRYRcJITcJIXcJI",
  "cJIPcJIETcJIEXcJIEcJIEPcJUOTcJUOXcJUOcJUOPcJOTcJOXcJOcJOPcJUTcJUXcJUcJUPcJURXcJURcJYTcJYXcJY",
  "cJYPcJYRXcJYRcQITcQIXcQIcQIPcQIETcQIEXcQIEcQIEPcQUOTcQUOXcQUOcQUOPcQOTcQOXcQOcQOPcQUTcQUXcQU",
  "cQUPcQURXcQURcQYTcQYXcQYcQYPcQYRXcQYRcJJITcJJIXcJJIcJJIPcJJIETcJJIEXcJJIEcJJIEPcJJUOXcJJUO",
  "cJJUOPcJJOTcJJOXcJJOcJJOPcJJUTcJJUXcJJUcJJUPcJJURXcJJURcJJYTcJJYXcJJYcJJYPcNJITcNJIXcNJIcNJIP",
  "cNJIETcNJIEXcNJIEcNJIEPcNJUOXcNJUOcNJOTcNJOXcNJOcNJOPcNJUXcNJUcNJUPcNJURXcNJURcNJYTcNJYXcNJY",
  "cNJYPcNJYRXcNJYRcNYITcNYIXcNYIcNYIPcNYIETcNYIEXcNYIEcNYIEPcNYUOXcNYUOcNYUOPcNYOTcNYOXcNYOcNYOP",
  "cNYUTcNYUXcNYUcNYUPcXITcXIXcXIcXIPcXIETcXIEXcXIEcXIEPcXUOXcXUOcXOTcXOXcXOcXOPcXYTcXYXcXYcXYP",
  "cXYRXcXYRcYITcYIXcYIcYIPcYIETcYIEXcYIEcYIEPcYUOTcYUOXcYUOcYUOPcYOTcYOXcYOcYOPcYUTcYUXcYUcYUP",
  "cYURXcYURcYYTcYYXcYYcYYPcYYRXcYYR.A490bRADICAL QOTcLIcKITcNYIPcCYPcSSIcGGOPcGEPcMIcHXITcLYR",
  "cBBUTcMOPcYOcPUTcHXUOcTATcGAcZUPcCYTcDDURcBURcGGUOcNYOPcTUcOPcJJUTcZOTcPYTcHMOcYITcVURcSHYcVEP",
  "cZAcJOcNZUPcJJYcGOTcJJIEcWOcDUcSHURcLIEcCYcCUOPcCIPcHXOPcSHATcZURcSHOPcCHEcZZIETcNBIEcKE",
  ".A4D0aLISU LETTER BAcPAcPHAcDAcTAcTHAcGAcKAcKHAcJAcCAcCHAcDZAcTSAcTSHAcMAcNAcLAcSAcZHAcZAcNGA",
  "cHAcXAcHHAcFAcWAcSHAcYAcGHAcAcAEcEcEUcIcOcUcUEcUHcOEcTONE MYA TIdNA POdMYA CYAeBOeNAeJEU",
  "bPUNCTUATION COMMAcFULL STOPaVAI SYLLABLE EEcEENcHEEcWEEcWEENcPEEcBHEEcBEEcMBEEcKPEEcMGBEE",
  "cGBEEcFEEcVEEcTEEcTHEEcDHEEcDHHEEcLEEcREEcDEEcNDEEcSEEcSHEEcZEEcZHEEcCEEcJEEcNJEEcYEEcKEE",
  "cNGGEEcGEEcMEEcNEEcNYEEcIcINcHIcHINcWIcWINcPIcBHIcBIcMBIcKPIcMGBIcGBIcFIcVIcTIcTHIcDHIcDHHIcLI",
  "cRIcDIcNDIcSIcSHIcZIcZHIcCIcJIcNJIcYIcKIcNGGIcGIcMIcNIcNYIcAcANcNGANcHAcHANcWAcWANcPAcBHAcBA",
  "cMBAcKPAcKPANcMGBAcGBAcFAcVAcTAcTHAcDHAcDHHAcLAcRAcDAcNDAcSAcSHAcZAcZHAcCAcJAcNJAcYAcKAcKAN",
  "cNGGAcGAcMAcNAcNYAcOOcOONcHOOcWOOcWOONcPOOcBHOOcBOOcMBOOcKPOOcMGBOOcGBOOcFOOcVOOcTOOcTHOOcDHOO",
  "cDHHOOcLOOcROOcDOOcNDOOcSOOcSHOOcZOOcZHOOcCOOcJOOcNJOOcYOOcKOOcNGGOOcGOOcMOOcNOOcNYOOcUcUNcHU",
  "cHUNcWUcWUNcPUcBHUcBUcMBUcKPUcMGBUcGBUcFUcVUcTUcTHUcDHUcDHHUcLUcRUcDUcNDUcSUcSHUcZUcZHUcCUcJU",
  "cNJUcYUcKUcNGGUcGUcMUcNUcNYUcOcONcNGONcHOcHONcWOcWONcPOcBHOcBOcMBOcKPOcMGBOcGBOcGBONcFOcVOcTO",
  "cTHOcDHOcDHHOcLOcROcDOcNDOcSOcSHOcZOcZHOcCOcJOcNJOcYOcKOcNGGOcGOcMOcNOcNYOcEcENcNGENcHEcHENcWE",
  "cWENcPEcBHEcBEcMBEcKPEcKPENcMGBEcGBEcGBENcFEcVEcTEcTHEcDHEcDHHEcLEcREcDEcNDEcSEcSHEcZEcZHEcCE",
  "cJEcNJEcYEcKEcNGGEcNGGENcGEcGENcMEcNEcNYEcNGcLENGTHENERbCOMMAbFULL STOPbQUESTION MARK",
  "bSYLLABLE NDOLE FAdKAdSOObSYMBOL FEENGcKEENGcTINGcNIIcBANGcFAAcTAAcDANGcDOONGcKUNGcTONGcDO-O",
  "cJONGbDIGIT ZEROcONEcTWOcTHREEcFOURcFIVEcSIXcSEVENcEIGHTcNINEbSYLLABLE NDOLE MAdDO",
  ".A640aCYRILLIC CAPITAL LETTER ZEMLYAbSMALL LETTER ZEMLYAbCAPITAL LETTER DZELO",
  "bSMALL LETTER DZELObCAPITAL LETTER REVERSED DZEbSMALL LETTER REVERSED DZEbCAPITAL LETTER IOTA",
  "bSMALL LETTER IOTAbCAPITAL LETTER DJERVbSMALL LETTER DJERVbCAPITAL LETTER MONOGRAPH UK",
  "bSMALL LETTER MONOGRAPH UKbCAPITAL LETTER BROAD OMEGAbSMALL LETTER BROAD OMEGA",
  "bCAPITAL LETTER NEUTRAL YERbSMALL LETTER NEUTRAL YERbCAPITAL LETTER YERU WITH BACK YER",
  "bSMALL LETTER YERU WITH BACK YERbCAPITAL LETTER IOTIFIED YATbSMALL LETTER IOTIFIED YAT",
  "bCAPITAL LETTER REVERSED YUbSMALL LETTER REVERSED YUbCAPITAL LETTER IOTIFIED A",
  "bSMALL LETTER IOTIFIED AbCAPITAL LETTER CLOSED LITTLE YUSbSMALL LETTER CLOSED LITTLE YUS",
  "bCAPITAL LETTER BLENDED YUSbSMALL LETTER BLENDED YUSbCAPITAL LETTER IOTIFIED CLOSED LITTLE YUS",
  "bSMALL LETTER IOTIFIED CLOSED LITTLE YUSbCAPITAL LETTER YNbSMALL LETTER YN",
  "bCAPITAL LETTER REVERSED TSEbSMALL LETTER REVERSED TSEbCAPITAL LETTER SOFT DE",
  "bSMALL LETTER SOFT DEbCAPITAL LETTER SOFT ELbSMALL LETTER SOFT ELbCAPITAL LETTER SOFT EM",
  "bSMALL LETTER SOFT EMbCAPITAL LETTER MONOCULAR ObSMALL LETTER MONOCULAR O",
  "bCAPITAL LETTER BINOCULAR ObSMALL LETTER BINOCULAR ObCAPITAL LETTER DOUBLE MONOCULAR O",
  "bSMALL LETTER DOUBLE MONOCULAR ObLETTER MULTIOCULAR OaCOMBINING CYRILLIC VZMET",
  "cTEN MILLIONS SIGNcHUNDRED MILLIONS SIGNcTHOUSAND MILLIONS SIGNaSLAVONIC ASTERISK",
  "aCOMBINING CYRILLIC LETTER UKRAINIAN IEdIdYIdUdHARD SIGNdYERUdSOFT SIGNdOMEGAcKAVYKAcPAYEROK",
  "aCYRILLIC KAVYKAbPAYEROKbCAPITAL LETTER DWEbSMALL LETTER DWEbCAPITAL LETTER DZWE",
  "bSMALL LETTER DZWEbCAPITAL LETTER ZHWEbSMALL LETTER ZHWEbCAPITAL LETTER CCHEbSMALL LETTER CCHE",
  "bCAPITAL LETTER DZZEbSMALL LETTER DZZEbCAPITAL LETTER TE WITH MIDDLE HOOK",
  "bSMALL LETTER TE WITH MIDDLE HOOKbCAPITAL LETTER TWEbSMALL LETTER TWEbCAPITAL LETTER TSWE",
  "bSMALL LETTER TSWEbCAPITAL LETTER TSSEbSMALL LETTER TSSEbCAPITAL LETTER TCHEbSMALL LETTER TCHE",
  "bCAPITAL LETTER HWEbSMALL LETTER HWEbCAPITAL LETTER SHWEbSMALL LETTER SHWE",
  "bCAPITAL LETTER DOUBLE ObSMALL LETTER DOUBLE ObCAPITAL LETTER CROSSED ObSMALL LETTER CROSSED O",
  "aMODIFIER LETTER CYRILLIC HARD SIGNdSOFT SIGNaCOMBINING CYRILLIC LETTER EFdIOTIFIED E",
  "aBAMUM LETTER AcKAcUcKUcEEcREEcTAEcOcNYIcIcLAcPAcRIIcRIEEcLEEEEcMEEEEcTAAcNDAAcNJAEMcMcSUUcMU",
  "cSHIIcSIcSHEUXcSEUXcKYEEcKETcNUAEcNUcNJUAEcYOQcSHUcYUQcYAcNSHAcKEUXcPEUXcNJEEcNTEEcPUEcWUEcPEE",
  "cFEEcRUcLUcMIcNIcREUXcRAEcKENcNGKWAENcNGGAcNGAcSHOcPUAEcFUcFOMcWAcNAcLIcPIcLOQcKOcMBENcRENcMEN",
  "cMAcTIcKIcMOcMBAAcTETcKPAcTENcNTUUcSAMBAcFAAMAEcKOVUUcKOGHOMbCOMBINING MARK KOQNDONdTUKWENTIS",
  "bNJAEMLIbFULL STOPbCOLONbCOMMAbSEMICOLONbQUESTION MARK",
  ".A700aMODIFIER LETTER CHINESE TONE YIN PINGeYANG PINGeYIN SHANGeYANG SHANGeYIN QUeYANG QU",
  "eYIN RUeYANG RUcEXTRA-HIGH DOTTED TONE BARcHIGH DOTTED TONE BARcMID DOTTED TONE BAR",
  "cLOW DOTTED TONE BARcEXTRA-LOW DOTTED TONE BARcEXTRA-HIGH DOTTED LEFT-STEM TONE BAR",
  "cHIGH DOTTED LEFT-STEM TONE BARcMID DOTTED LEFT-STEM TONE BARcLOW DOTTED LEFT-STEM TONE BAR",
  "cEXTRA-LOW DOTTED LEFT-STEM TONE BARcEXTRA-HIGH LEFT-STEM TONE BARcHIGH LEFT-STEM TONE BAR",
  "cMID LEFT-STEM TONE BARcLOW LEFT-STEM TONE BARcEXTRA-LOW LEFT-STEM TONE BARcDOT VERTICAL BAR",
  "dSLASHdHORIZONTAL BARcLOWER RIGHT CORNER ANGLEcRAISED UP ARROWdDOWN ARROWdEXCLAMATION MARK",
  "dINVERTED EXCLAMATION MARKcLOW INVERTED EXCLAMATION MARKcSTRESS AND HIGH TONEeLOW TONE",
  "aLATIN CAPITAL LETTER EGYPTOLOGICAL ALEFbSMALL LETTER EGYPTOLOGICAL ALEF",
  "bCAPITAL LETTER EGYPTOLOGICAL AINbSMALL LETTER EGYPTOLOGICAL AINbCAPITAL LETTER HENG",
  "bSMALL LETTER HENGbCAPITAL LETTER TZbSMALL LETTER TZbCAPITAL LETTER TRESILLO",
  "bSMALL LETTER TRESILLObCAPITAL LETTER CUATRILLObSMALL LETTER CUATRILLO",
  "bCAPITAL LETTER CUATRILLO WITH COMMAbSMALL LETTER CUATRILLO WITH COMMAbLETTER SMALL CAPITAL F",
  "eSbCAPITAL LETTER AAbSMALL LETTER AAbCAPITAL LETTER AObSMALL LETTER AObCAPITAL LETTER AU",
  "bSMALL LETTER AUbCAPITAL LETTER AVbSMALL LETTER AVbCAPITAL LETTER AV WITH HORIZONTAL BAR",
  "bSMALL LETTER AV WITH HORIZONTAL BARbCAPITAL LETTER AYbSMALL LETTER AY",
  "bCAPITAL LETTER REVERSED C WITH DOTbSMALL LETTER REVERSED C WITH DOT",
  "bCAPITAL LETTER K WITH STROKEbSMALL LETTER K WITH STROKEbCAPITAL LETTER K WITH DIAGONAL STROKE",
  "bSMALL LETTER K WITH DIAGONAL STROKEbCAPITAL LETTER K WITH STROKE AND DIAGONAL STROKE",
  "bSMALL LETTER K WITH STROKE AND DIAGONAL STROKEbCAPITAL LETTER BROKEN LbSMALL LETTER BROKEN L",
  "bCAPITAL LETTER L WITH HIGH STROKEbSMALL LETTER L WITH HIGH STROKE",
  "bCAPITAL LETTER O WITH LONG STROKE OVERLAYbSMALL LETTER O WITH LONG STROKE OVERLAY",
  "bCAPITAL LETTER O WITH LOOPbSMALL LETTER O WITH LOOPbCAPITAL LETTER OObSMALL LETTER OO",
  "bCAPITAL LETTER P WITH STROKE THROUGH DESCENDERbSMALL LETTER P WITH STROKE THROUGH DESCENDER",
  "bCAPITAL LETTER P WITH FLOURISHbSMALL LETTER P WITH FLOURISH",
  "bCAPITAL LETTER P WITH SQUIRREL TAILbSMALL LETTER P WITH SQUIRREL TAIL",
  "bCAPITAL LETTER Q WITH STROKE THROUGH DESCENDERbSMALL LETTER Q WITH STROKE THROUGH DESCENDER",
  "bCAPITAL LETTER Q WITH DIAGONAL STROKEbSMALL LETTER Q WITH DIAGONAL STROKE",
  "bCAPITAL LETTER R ROTUNDAbSMALL LETTER R ROTUNDAbCAPITAL LETTER RUM ROTUNDA",
  "bSMALL LETTER RUM ROTUNDAbCAPITAL LETTER V WITH DIAGONAL STROKE",
  "bSMALL LETTER V WITH DIAGONAL STROKEbCAPITAL LETTER VYbSMALL LETTER VY",
  "bCAPITAL LETTER VISIGOTHIC ZbSMALL LETTER VISIGOTHIC ZbCAPITAL LETTER THORN WITH STROKE",
  "bSMALL LETTER THORN WITH STROKEbCAPITAL LETTER THORN WITH STROKE THROUGH DESCENDER",
  "bSMALL LETTER THORN WITH STROKE THROUGH DESCENDERbCAPITAL LETTER VENDbSMALL LETTER VEND",
  "bCAPITAL LETTER ETbSMALL LETTER ETbCAPITAL LETTER ISbSMALL LETTER ISbCAPITAL LETTER CON",
  "bSMALL LETTER CONaMODIFIER LETTER USaLATIN SMALL LETTER DUMdLUMdMUMdNUMdRUM",
  "bLETTER SMALL CAPITAL RUMbSMALL LETTER TUMdUMbCAPITAL LETTER INSULAR DbSMALL LETTER INSULAR D",
  "bCAPITAL LETTER INSULAR FbSMALL LETTER INSULAR FbCAPITAL LETTER INSULAR GdTURNED INSULAR G",
  "bSMALL LETTER TURNED INSULAR GbCAPITAL LETTER TURNED LbSMALL LETTER TURNED L",
  "bCAPITAL LETTER INSULAR RbSMALL LETTER INSULAR RbCAPITAL LETTER INSULAR S",
  "bSMALL LETTER INSULAR SbCAPITAL LETTER INSULAR TbSMALL LETTER INSULAR T",
  "aMODIFIER LETTER LOW CIRCUMFLEX ACCENTcCOLONcSHORT EQUALS SIGNaLATIN CAPITAL LETTER SALTILLO",
  "bSMALL LETTER SALTILLObCAPITAL LETTER TURNED HbSMALL LETTER L WITH RETROFLEX HOOK AND BELT",
  "bLETTER SINOLOGICAL DOTbCAPITAL LETTER N WITH DESCENDERbSMALL LETTER N WITH DESCENDER",
  "bCAPITAL LETTER C WITH BARbSMALL LETTER C WITH BARfPALATAL HOOKdH WITH PALATAL HOOK",
  "bCAPITAL LETTER B WITH FLOURISHbSMALL LETTER B WITH FLOURISHbCAPITAL LETTER F WITH STROKE",
  "bSMALL LETTER F WITH STROKEbCAPITAL LETTER VOLAPUK AEbSMALL LETTER VOLAPUK AE",
  "bCAPITAL LETTER VOLAPUK OEbSMALL LETTER VOLAPUK OEbCAPITAL LETTER VOLAPUK UE",
  "bSMALL LETTER VOLAPUK UEbCAPITAL LETTER G WITH OBLIQUE STROKE",
  "bSMALL LETTER G WITH OBLIQUE STROKEbCAPITAL LETTER K WITH OBLIQUE STROKE",
  "bSMALL LETTER K WITH OBLIQUE STROKEbCAPITAL LETTER N WITH OBLIQUE STROKE",
  "bSMALL LETTER N WITH OBLIQUE STROKEbCAPITAL LETTER R WITH OBLIQUE STROKE",
  "bSMALL LETTER R WITH OBLIQUE STROKEbCAPITAL LETTER S WITH OBLIQUE STROKE",
  "bSMALL LETTER S WITH OBLIQUE STROKEbCAPITAL LETTER H WITH HOOKdREVERSED OPEN EdSCRIPT G",
  "dL WITH BELTdSMALL CAPITAL IbLETTER SMALL CAPITAL QbCAPITAL LETTER TURNED KeT",
  "dJ WITH CROSSED-TAILdCHIdBETAbSMALL LETTER BETAbCAPITAL LETTER OMEGAbSMALL LETTER OMEGA",
  "bCAPITAL LETTER U WITH STROKEbSMALL LETTER U WITH STROKEbCAPITAL LETTER GLOTTAL A",
  "bSMALL LETTER GLOTTAL AbCAPITAL LETTER GLOTTAL IbSMALL LETTER GLOTTAL I",
  "bCAPITAL LETTER GLOTTAL UbSMALL LETTER GLOTTAL UbCAPITAL LETTER OLD POLISH O",
  "bSMALL LETTER OLD POLISH ObCAPITAL LETTER ANGLICANA WbSMALL LETTER ANGLICANA W",
  "bCAPITAL LETTER C WITH PALATAL HOOKdS WITH HOOKdZ WITH PALATAL HOOK",
  "dD WITH SHORT STROKE OVERLAYbSMALL LETTER D WITH SHORT STROKE OVERLAY",
  "bCAPITAL LETTER S WITH SHORT STROKE OVERLAYbSMALL LETTER S WITH SHORT STROKE OVERLAY",
  ".A7D0bCAPITAL LETTER CLOSED INSULAR GbSMALL LETTER CLOSED INSULAR G.A7D3dDOUBLE THORN",
  ".A7D5eWYNNbCAPITAL LETTER MIDDLE SCOTS SbSMALL LETTER MIDDLE SCOTS SbCAPITAL LETTER SIGMOID S",
  "bSMALL LETTER SIGMOID S.A7F2aMODIFIER LETTER CAPITAL CdFdQ",
  "aLATIN CAPITAL LETTER REVERSED HALF HbSMALL LETTER REVERSED HALF H",
  "bEPIGRAPHIC LETTER SIDEWAYS IaMODIFIER LETTER CAPITAL H WITH STROKEcSMALL LIGATURE OE",
  "aLATIN LETTER SMALL CAPITAL TURNED MbEPIGRAPHIC LETTER REVERSED FePdINVERTED MdI LONGA",
  "dARCHAIC MaSYLOTI NAGRI LETTER AdIcSIGN DVISVARAcLETTER UdEdOcSIGN HASANTAcLETTER KOdKHOdGO",
  "dGHOcSIGN ANUSVARAcLETTER COdCHOdJOdJHOdTTOdTTHOdDDOdDDHOdTOdTHOdDOdDHOdNOdPOdPHOdBOdBHOdMOdRO",
  "dLOdRROdSOdHOcVOWEL SIGN AeIeUeEeOOcPOETRY MARK-1dMARK-2dMARK-3dMARK-4cSIGN ALTERNATE HASANTA",
  ".A830aNORTH INDIC FRACTION ONE QUARTEReHALFdTHREE QUARTERSdONE SIXTEENTHeEIGHTH",
  "dTHREE SIXTEENTHScQUARTER MARKcPLACEHOLDER MARKcRUPEE MARKcQUANTITY MARK",
  ".A840aPHAGS-PA LETTER KAcKHAcGAcNGAcCAcCHAcJAcNYAcTAcTHAcDAcNAcPAcPHAcBAcMAcTSAcTSHAcDZAcWA",
  "cZHAcZAcSMALL AcYAcRAcLAcSHAcSAcHAcAcIcUcEcOcQAcXAcFAcGGAcEEbSUBJOINED LETTER WAdYAbLETTER TTA",
  "cTTHAcDDAcNNAcALTERNATE YAcVOICELESS SHAcVOICED HAcASPIRATED FAbSUBJOINED LETTER RA",
  "bSUPERFIXED LETTER RAbLETTER CANDRABINDUbSINGLE HEAD MARKbDOUBLE HEAD MARKbMARK SHAD",
  "cDOUBLE SHAD.A880aSAURASHTRA SIGN ANUSVARAcVISARGAbLETTER AcAAcIcIIcUcUUcVOCALIC RdRRdLdLLcE",
  "cEEcAIcOcOOcAUcKAcKHAcGAcGHAcNGAcCAcCHAcJAcJHAcNYAcTTAcTTHAcDDAcDDHAcNNAcTAcTHAcDAcDHAcNAcPA",
  "cPHAcBAcBHAcMAcYAcRAcLAcVAcSHAcSSAcSAcHAcLLAbCONSONANT SIGN HAARUbVOWEL SIGN AAdIdIIdUdUU",
  "dVOCALIC ReRReLeLLdEdEEdAIdOdOOdAUbSIGN VIRAMAcCANDRABINDU.A8CEbDANDAbDOUBLE DANDAbDIGIT ZERO",
  "cONEcTWOcTHREEcFOURcFIVEcSIXcSEVENcEIGHTcNINE.A8E0aCOMBINING DEVANAGARI DIGIT ZEROdONEdTWO",
  "dTHREEdFOURdFIVEdSIXdSEVENdEIGHTdNINEcLETTER AdUdKAdNAdPAdRAdVIcSIGN AVAGRAHA",
  "aDEVANAGARI SIGN SPACING CANDRABINDUcCANDRABINDU VIRAMAcDOUBLE CANDRABINDU VIRAMA",
  "cCANDRABINDU TWOdTHREEdAVAGRAHAcPUSHPIKAbGAP FILLERbCARETbHEADSTROKEbSIGN SIDDHAMbJAIN OM",
  "bLETTER AYbVOWEL SIGN AYaKAYAH LI DIGIT ZEROdONEdTWOdTHREEdFOURdFIVEdSIXdSEVENdEIGHTdNINE",
  "cLETTER KAdKHAdGAdNGAdSAdSHAdZAdNYAdTAdHTAdNAdPAdPHAdMAdDAdBAdRAdYAdLAdWAdTHAdHAdVAdCAdAdOEdI",
  "dOOcVOWEL UEdEdUdEEdOcTONE PLOPHUdCALYAePLOPHUcSIGN CWIdSHYAaREJANG LETTER KAcGAcNGAcTAcDAcNA",
  "cPAcBAcMAcCAcJAcNYAcSAcRAcLAcYAcWAcHAcMBAcNGGAcNDAcNYJAcAbVOWEL SIGN IdUdEdAIdOdAUdEUdEA",
  "bCONSONANT SIGN NGdNdRdHbVIRAMA.A95FbSECTION MARKaHANGUL CHOSEONG TIKEUT-MIEUMcTIKEUT-PIEUP",
  "cTIKEUT-SIOScTIKEUT-CIEUCcRIEUL-KIYEOKcRIEUL-SSANGKIYEOKcRIEUL-TIKEUTcRIEUL-SSANGTIKEUT",
  "cRIEUL-MIEUMcRIEUL-PIEUPcRIEUL-SSANGPIEUPcRIEUL-KAPYEOUNPIEUPcRIEUL-SIOScRIEUL-CIEUC",
  "cRIEUL-KHIEUKHcMIEUM-KIYEOKcMIEUM-TIKEUTcMIEUM-SIOScPIEUP-SIOS-THIEUTHcPIEUP-KHIEUKH",
  "cPIEUP-HIEUHcSSANGSIOS-PIEUPcIEUNG-RIEULcIEUNG-HIEUHcSSANGCIEUC-HIEUHcSSANGTHIEUTH",
  "cPHIEUPH-HIEUHcHIEUH-SIOScSSANGYEORINHIEUH.A980aJAVANESE SIGN PANYANGGAcCECAKcLAYARcWIGNYAN",
  "bLETTER AcI KAWIdcIIcUcPA CEREKcNGA LELETeRASWADIcEcAIcOcKAdSASAKdMURDAcGAdMURDAcNGAcCAdMURDA",
  "cJAcNYA MURDAcJA MAHAPRANAcNYAcTTAdMAHAPRANAcDDAdMAHAPRANAcNA MURDAcTAdMURDAcDAdMAHAPRANAcNA",
  "cPAdMURDAcBAdMURDAcMAcYAcRAdAGUNGcLAcWAcSA MURDAdMAHAPRANAdcHAbSIGN CECAK TELU",
  "bVOWEL SIGN TARUNGdTOLONGdWULUeMELIKdSUKUeMENDUTdTALINGdDIRGA MUREdPEPETbCONSONANT SIGN KERET",
  "dPENGKALdCAKRAbPANGKONbLEFT RERENGGANbRIGHT RERENGGANbPADA ANDAPcMADYAcLUHURcWINDUcPANGKAT",
  "cLINGSAcLUNGSIcADEGdADEGcPISELEHbTURNED PADA PISELEH.A9CFbPANGRANGKEPbDIGIT ZEROcONEcTWOcTHREE",
  "cFOURcFIVEcSIXcSEVENcEIGHTcNINE.A9DEbPADA TIRTA TUMETEScISEN-ISENaMYANMAR LETTER SHAN GHAdCHA",
  "dJHAdNNAdBHAbSIGN SHAN SAWbMODIFIER LETTER SHAN REDUPLICATIONbLETTER TAI LAING NYAeFAeGAeGHA",
  "eJAeJHAeDDAeDDHAeNNAbTAI LAING DIGIT ZEROeONEeTWOeTHREEeFOUReFIVEeSIXeSEVENeEIGHTeNINE",
  "bLETTER TAI LAING LLAeDAeDHAeBAeBHA.AA00aCHAM LETTER AcIcUcEcAIcOcKAcKHAcGAcGHAcNGUEcNGAcCHA",
  "cCHHAcJAcJHAcNHUEcNHAcNHJAcTAcTHAcDAcDHAcNUEcNAcDDAcPAcPPAcPHAcBAcBHAcMUEcMAcBBAcYAcRAcLAcVA",
  "cSSAcSAcHAbVOWEL SIGN AAdIdIIdEIdUdOEdOdAIdAUdUEbCONSONANT SIGN YAdRAdLAdWA",
  ".AA40bLETTER FINAL KdGdNGbCONSONANT SIGN FINAL NGbLETTER FINAL CHdTdNdPdYdRdLdSS",
  "bCONSONANT SIGN FINAL MeH.AA50bDIGIT ZEROcONEcTWOcTHREEcFOURcFIVEcSIXcSEVENcEIGHTcNINE",
  ".AA5CbPUNCTUATION SPIRALcDANDAcDOUBLE DANDAcTRIPLE DANDAaMYANMAR LETTER KHAMTI GAdCAdCHAdJA",
  "dJHAdNYAdTTAdTTHAdDDAdDDHAdDHAdNAdSAdHAdHHAdFAbMODIFIER LETTER KHAMTI REDUPLICATION",
  "bLETTER KHAMTI XAdZAdRAbLOGOGRAM KHAMTI OAYdQNdHMbSYMBOL AITON EXCLAMATIONdONEdTWO",
  "bLETTER AITON RAbSIGN PAO KAREN TONEcTAI LAING TONE-2eTONE-5bLETTER SHWE PALAUNG CHAeSHA",
  "aTAI VIET LETTER LOW KOdHIGH KOdLOW KHOdHIGH KHOdLOW KHHOdHIGH KHHOdLOW GOdHIGH GOdLOW NGO",
  "dHIGH NGOdLOW COdHIGH COdLOW CHOdHIGH CHOdLOW SOdHIGH SOdLOW NYOdHIGH NYOdLOW DOdHIGH DO",
  "dLOW TOdHIGH TOdLOW THOdHIGH THOdLOW NOdHIGH NOdLOW BOdHIGH BOdLOW POdHIGH POdLOW PHOdHIGH PHO",
  "dLOW FOdHIGH FOdLOW MOdHIGH MOdLOW YOdHIGH YOdLOW ROdHIGH ROdLOW LOdHIGH LOdLOW VOdHIGH VO",
  "dLOW HOdHIGH HOdLOW OdHIGH OcMAI KANGcVOWEL AAdIdUEdUdEdOcMAI KHITcVOWEL IAdUEAdUAdAUEdAYdAN",
  "dAMcTONE MAI EKeNUENGeTHOeSONG.AADBcSYMBOL KONdNUENGdSAMdHO HOIdKOI KOIaMEETEI MAYEK LETTER E",
  "dOdCHAdNYAdTTAdTTHAdDDAdDDHAdNNAdSHAdSSAcVOWEL SIGN IIeUUeAAIeAUeAAUcCHEIKHANcAHANG KHUDAM",
  "cANJIcSYLLABLE REPETITION MARKcWORD REPETITION MARKcVOWEL SIGN VISARGAcVIRAMA",
  ".AB01aETHIOPIC SYLLABLE TTHUcTTHIcTTHAAcTTHEEcTTHEcTTHO.AB09cDDHUcDDHIcDDHAAcDDHEEcDDHEcDDHO",
  ".AB11cDZUcDZIcDZAAcDZEEcDZEcDZO.AB20cCCHHAcCCHHUcCCHHIcCCHHAAcCCHHEEcCCHHEcCCHHO.AB28cBBAcBBU",
  "cBBIcBBAAcBBEEcBBEcBBO.AB30aLATIN SMALL LETTER BARRED ALPHAdA REVERSED-SCHWAdBLACKLETTER E",
  "dBARRED EdE WITH FLOURISHdLENIS FdSCRIPT G WITH CROSSED-TAILdL WITH INVERTED LAZY S",
  "fDOUBLE MIDDLE TILDEfMIDDLE RINGdM WITH CROSSED-TAILdN WITH CROSSED-TAILdENG WITH CROSSED-TAIL",
  "dBLACKLETTER OfWITH STROKEdOPEN O WITH STROKEdINVERTED OEdTURNED OE WITH STROKE",
  "gHORIZONTAL STROKEeO OPEN-OgWITH STROKEdSTIRRUP RbLETTER SMALL CAPITAL R WITH RIGHT LEG",
  "bSMALL LETTER R WITHOUT HANDLEdDOUBLE RdR WITH CROSSED-TAILdDOUBLE R WITH CROSSED-TAIL",
  "dSCRIPT RfWITH RINGdBASELINE ESHdU WITH SHORT RIGHT LEGeBAR WITH SHORT RIGHT LEGdUIdTURNED UI",
  "dU WITH LEFT HOOKdCHIeWITH LOW RIGHT RINGgLEFT SERIFdX WITH LOW RIGHT RINGfLONG LEFT LEG",
  "iAND LOW RIGHT RINGiWITH SERIFdY WITH SHORT RIGHT LEGaMODIFIER BREVE WITH INVERTED BREVE",
  "bLETTER SMALL HENGdL WITH INVERTED LAZY SfMIDDLE TILDEdU WITH LEFT HOOK",
  "aLATIN SMALL LETTER SAKHA YATdIOTIFIED EdOPEN OEdUOdINVERTED ALPHA",
  "aGREEK LETTER SMALL CAPITAL OMEGAaLATIN SMALL LETTER DZ DIGRAPH WITH RETROFLEX HOOK",
  "dTS DIGRAPH WITH RETROFLEX HOOKdTURNED R WITH MIDDLE TILDEaMODIFIER LETTER SMALL TURNED W",
  "cLEFT TACKcRIGHT TACK.AB70aCHEROKEE SMALL LETTER AdEdIdOdUdVdGAdKAdGEdGIdGOdGUdGVdHAdHEdHIdHO",
  "dHUdHVdLAdLEdLIdLOdLUdLVdMAdMEdMIdMOdMUdNAdHNAdNAHdNEdNIdNOdNUdNVdQUAdQUEdQUIdQUOdQUUdQUVdSAdS",
  "dSEdSIdSOdSUdSVdDAdTAdDEdTEdDIdTIdDOdDUdDVdDLAdTLAdTLEdTLIdTLOdTLUdTLVdTSAdTSEdTSIdTSOdTSUdTSV",
  "dWAdWEdWIdWOdWUdWVdYAaMEETEI MAYEK LETTER KOKdSAMdLAIdMITdPAdNAdCHILdTILdKHOUdNGOUdTHOUdWAI",
  "dYANGdHUKdUNdIdPHAMdATIYAdGOKdJHAMdRAIdBAdJILdDILdGHOUdDHOUdBHAMdKOK LONSUMdLAI LONSUM",
  "dMIT LONSUMdPA LONSUMdNA LONSUMdTIL LONSUMdNGOU LONSUMdI LONSUMcVOWEL SIGN ONAPeINAPeANAP",
  "eYENAPeSOUNAPeUNAPeCHEINAPeNUNGcCHEIKHEIcLUM IYEKcAPUN IYEK.ABF0cDIGIT ZEROdONEdTWOdTHREEdFOUR",
  "dFIVEdSIXdSEVENdEIGHTdNINE.D7B0aHANGUL JUNGSEONG O-YEOcO-O-IcYO-AcYO-AEcYO-EOcU-YEOcU-I-I",
  "cYU-AEcYU-OcEU-AcEU-EOcEU-EcEU-OcI-YA-OcI-YAEcI-YEOcI-YEcI-O-IcI-YOcI-YUcI-IcARAEA-AcARAEA-E",
  ".D7CBbJONGSEONG NIEUN-RIEULcNIEUN-CHIEUCHcSSANGTIKEUTcSSANGTIKEUT-PIEUPcTIKEUT-PIEUP",
  "cTIKEUT-SIOScTIKEUT-SIOS-KIYEOKcTIKEUT-CIEUCcTIKEUT-CHIEUCHcTIKEUT-THIEUTHcRIEUL-SSANGKIYEOK",
  "cRIEUL-KIYEOK-HIEUHcSSANGRIEUL-KHIEUKHcRIEUL-MIEUM-HIEUHcRIEUL-PIEUP-TIKEUT",
  "cRIEUL-PIEUP-PHIEUPHcRIEUL-YESIEUNGcRIEUL-YEORINHIEUH-HIEUHcKAPYEOUNRIEULcMIEUM-NIEUN",
  "cMIEUM-SSANGNIEUNcSSANGMIEUMcMIEUM-PIEUP-SIOScMIEUM-CIEUCcPIEUP-TIKEUTcPIEUP-RIEUL-PHIEUPH",
  "cPIEUP-MIEUMcSSANGPIEUPcPIEUP-SIOS-TIKEUTcPIEUP-CIEUCcPIEUP-CHIEUCHcSIOS-MIEUM",
  "cSIOS-KAPYEOUNPIEUPcSSANGSIOS-KIYEOKcSSANGSIOS-TIKEUTcSIOS-PANSIOScSIOS-CIEUCcSIOS-CHIEUCH",
  "cSIOS-THIEUTHcSIOS-HIEUHcPANSIOS-PIEUPcPANSIOS-KAPYEOUNPIEUPcYESIEUNG-MIEUMcYESIEUNG-HIEUH",
  "cCIEUC-PIEUPcCIEUC-SSANGPIEUPcSSANGCIEUCcPHIEUPH-SIOScPHIEUPH-THIEUTH",
  ".FB00aLATIN SMALL LIGATURE FFdFIdFLdFFIdFFLdLONG S TdST.FB13aARMENIAN SMALL LIGATURE MEN NOW",
  "eECHeINIdVEW NOWdMEN XEH.FB1DaHEBREW LETTER YOD WITH HIRIQbPOINT JUDEO-SPANISH VARIKA",
  "bLIGATURE YIDDISH YOD YOD PATAHbLETTER ALTERNATIVE AYINcWIDE ALEFdDALETdHEdKAFdLAMEDdFINAL MEM",
  "dRESHdTAVcALTERNATIVE PLUS SIGNcSHIN WITH SHIN DOTeSIN DOTeDAGESH AND SHIN DOTgSIN DOT",
  "cALEF WITH PATAHeQAMATSeMAPIQcBET WITH DAGESHcGIMEL WITH DAGESHcDALET WITH DAGESH",
  "cHE WITH MAPIQcVAV WITH DAGESHcZAYIN WITH DAGESH.FB38cTET WITH DAGESHcYOD WITH DAGESH",
  "cFINAL KAF WITH DAGESHcKAF WITH DAGESHcLAMED WITH DAGESH.FB3EcMEM WITH DAGESH",
  ".FB40cNUN WITH DAGESHcSAMEKH WITH DAGESH.FB43cFINAL PE WITH DAGESHcPE WITH DAGESH",
  ".FB46cTSADI WITH DAGESHcQOF WITH DAGESHcRESH WITH DAGESHcSHIN WITH DAGESHcTAV WITH DAGESH",
  "cVAV WITH HOLAMcBET WITH RAFEcKAF WITH RAFEcPE WITH RAFEbLIGATURE ALEF LAMED",
  "aARABIC LETTER ALEF WASLA ISOLATED FORMeFINAL FORMcBEEH ISOLATED FORMdFINAL FORMdINITIAL FORM",
  "dMEDIAL FORMcPEH ISOLATED FORMdFINAL FORMdINITIAL FORMdMEDIAL FORMcBEHEH ISOLATED FORM",
  "dFINAL FORMdINITIAL FORMdMEDIAL FORMcTTEHEH ISOLATED FORMdFINAL FORMdINITIAL FORMdMEDIAL FORM",
  "cTEHEH ISOLATED FORMdFINAL FORMdINITIAL FORMdMEDIAL FORMcTTEH ISOLATED FORMdFINAL FORM",
  "dINITIAL FORMdMEDIAL FORMcVEH ISOLATED FORMdFINAL FORMdINITIAL FORMdMEDIAL FORM",
  "cPEHEH ISOLATED FORMdFINAL FORMdINITIAL FORMdMEDIAL FORMcDYEH ISOLATED FORMdFINAL FORM",
  "dINITIAL FORMdMEDIAL FORMcNYEH ISOLATED FORMdFINAL FORMdINITIAL FORMdMEDIAL FORM",
  "cTCHEH ISOLATED FORMdFINAL FORMdINITIAL FORMdMEDIAL FORMcTCHEHEH ISOLATED FORMdFINAL FORM",
  "dINITIAL FORMdMEDIAL FORMcDDAHAL ISOLATED FORMdFINAL FORMcDAHAL ISOLATED FORMdFINAL FORM",
  "cDUL ISOLATED FORMdFINAL FORMcDDAL ISOLATED FORMdFINAL FORMcJEH ISOLATED FORMdFINAL FORM",
  "cRREH ISOLATED FORMdFINAL FORMcKEHEH ISOLATED FORMdFINAL FORMdINITIAL FORMdMEDIAL FORM",
  "cGAF ISOLATED FORMdFINAL FORMdINITIAL FORMdMEDIAL FORMcGUEH ISOLATED FORMdFINAL FORM",
  "dINITIAL FORMdMEDIAL FORMcNGOEH ISOLATED FORMdFINAL FORMdINITIAL FORMdMEDIAL FORM",
  "cNOON GHUNNA ISOLATED FORMeFINAL FORMcRNOON ISOLATED FORMdFINAL FORMdINITIAL FORMdMEDIAL FORM",
  "cHEH WITH YEH ABOVE ISOLATED FORMgFINAL FORMdGOAL ISOLATED FORMeFINAL FORMeINITIAL FORM",
  "eMEDIAL FORMdDOACHASHMEE ISOLATED FORMeFINAL FORMeINITIAL FORMeMEDIAL FORM",
  "cYEH BARREE ISOLATED FORMeFINAL FORMeWITH HAMZA ABOVE ISOLATED FORMhFINAL FORM",
  "bSYMBOL DOT ABOVEdBELOWcTWO DOTS ABOVEeBELOWcTHREE DOTS ABOVEeBELOWePOINTING DOWNWARDS ABOVE",
  "gBELOWcFOUR DOTS ABOVEeBELOWcDOUBLE VERTICAL BAR BELOWcTWO DOTS VERTICALLY ABOVEfBELOWcRING",
  "cSMALL TAH ABOVEeBELOWcWASLA ABOVE.FBD3bLETTER NG ISOLATED FORMdFINAL FORMdINITIAL FORM",
  "dMEDIAL FORMcU ISOLATED FORMdFINAL FORMcOE ISOLATED FORMdFINAL FORMcYU ISOLATED FORM",
  "dFINAL FORMcU WITH HAMZA ABOVE ISOLATED FORMcVE ISOLATED FORMdFINAL FORM",
  "cKIRGHIZ OE ISOLATED FORMeFINAL FORMdYU ISOLATED FORMeFINAL FORMcE ISOLATED FORMdFINAL FORM",
  "dINITIAL FORMdMEDIAL FORMcUIGHUR KAZAKH KIRGHIZ ALEF MAKSURA INITIAL FORMhMEDIAL FORM",
  "bLIGATURE YEH WITH HAMZA ABOVE WITH ALEF ISOLATED FORMiFINAL FORMhAE ISOLATED FORMiFINAL FORM",
  "hWAW ISOLATED FORMiFINAL FORMhU ISOLATED FORMiFINAL FORMhOE ISOLATED FORMiFINAL FORM",
  "hYU ISOLATED FORMiFINAL FORMhE ISOLATED FORMiFINAL FORMiINITIAL FORM",
  "cUIGHUR KIRGHIZ YEH WITH HAMZA ABOVE WITH ALEF MAKSURA ISOLATED FORMlFINAL FORMlINITIAL FORM",
  "bLETTER FARSI YEH ISOLATED FORMeFINAL FORMeINITIAL FORMeMEDIAL FORM",
  "bLIGATURE YEH WITH HAMZA ABOVE WITH JEEM ISOLATED FORMhHAH ISOLATED FORMhMEEM ISOLATED FORM",
  "hALEF MAKSURA ISOLATED FORMhYEH ISOLATED FORMcBEH WITH JEEM ISOLATED FORMeHAH ISOLATED FORM",
  "eKHAH ISOLATED FORMeMEEM ISOLATED FORMeALEF MAKSURA ISOLATED FORMeYEH ISOLATED FORM",
  "cTEH WITH JEEM ISOLATED FORMeHAH ISOLATED FORMeKHAH ISOLATED FORMeMEEM ISOLATED FORM",
  "eALEF MAKSURA ISOLATED FORMeYEH ISOLATED FORMcTHEH WITH JEEM ISOLATED FORMeMEEM ISOLATED FORM",
  "eALEF MAKSURA ISOLATED FORMeYEH ISOLATED FORMcJEEM WITH HAH ISOLATED FORMeMEEM ISOLATED FORM",
  "cHAH WITH JEEM ISOLATED FORMeMEEM ISOLATED FORMcKHAH WITH JEEM ISOLATED FORMeHAH ISOLATED FORM",
  "eMEEM ISOLATED FORMcSEEN WITH JEEM ISOLATED FORMeHAH ISOLATED FORMeKHAH ISOLATED FORM",
  "eMEEM ISOLATED FORMcSAD WITH HAH ISOLATED FORMeMEEM ISOLATED FORMcDAD WITH JEEM ISOLATED FORM",
  "eHAH ISOLATED FORMeKHAH ISOLATED FORMeMEEM ISOLATED FORMcTAH WITH HAH ISOLATED FORM",
  "eMEEM ISOLATED FORMcZAH WITH MEEM ISOLATED FORMcAIN WITH JEEM ISOLATED FORMeMEEM ISOLATED FORM",
  "cGHAIN WITH JEEM ISOLATED FORMeMEEM ISOLATED FORMcFEH WITH JEEM ISOLATED FORM",
  "eHAH ISOLATED FORMeKHAH ISOLATED FORMeMEEM ISOLATED FORMeALEF MAKSURA ISOLATED FORM",
  "eYEH ISOLATED FORMcQAF WITH HAH ISOLATED FORMeMEEM ISOLATED FORMeALEF MAKSURA ISOLATED FORM",
  "eYEH ISOLATED FORMcKAF WITH ALEF ISOLATED FORMeJEEM ISOLATED FORMeHAH ISOLATED FORM",
  "eKHAH ISOLATED FORMeLAM ISOLATED FORMeMEEM ISOLATED FORMeALEF MAKSURA ISOLATED FORM",
  "eYEH ISOLATED FORMcLAM WITH JEEM ISOLATED FORMeHAH ISOLATED FORMeKHAH ISOLATED FORM",
  "eMEEM ISOLATED FORMeALEF MAKSURA ISOLATED FORMeYEH ISOLATED FORMcMEEM WITH JEEM ISOLATED FORM",
  "eHAH ISOLATED FORMeKHAH ISOLATED FORMeMEEM ISOLATED FORMeALEF MAKSURA ISOLATED FORM",
  "eYEH ISOLATED FORMcNOON WITH JEEM ISOLATED FORMeHAH ISOLATED FORMeKHAH ISOLATED FORM",
  "eMEEM ISOLATED FORMeALEF MAKSURA ISOLATED FORMeYEH ISOLATED FORMcHEH WITH JEEM ISOLATED FORM",
  "eMEEM ISOLATED FORMeALEF MAKSURA ISOLATED FORMeYEH ISOLATED FORMcYEH WITH JEEM ISOLATED FORM",
  "eHAH ISOLATED FORMeKHAH ISOLATED FORMeMEEM ISOLATED FORMeALEF MAKSURA ISOLATED FORM",
  "eYEH ISOLATED FORMcTHAL WITH SUPERSCRIPT ALEF ISOLATED FORM",
  "cREH WITH SUPERSCRIPT ALEF ISOLATED FORMcALEF MAKSURA WITH SUPERSCRIPT ALEF ISOLATED FORM",
  "cSHADDA WITH DAMMATAN ISOLATED FORMeKASRATAN ISOLATED FORMeFATHA ISOLATED FORM",
  "eDAMMA ISOLATED FORMeKASRA ISOLATED FORMeSUPERSCRIPT ALEF ISOLATED FORM",
  "cYEH WITH HAMZA ABOVE WITH REH FINAL FORMhZAIN FINAL FORMhMEEM FINAL FORMhNOON FINAL FORM",
  "hALEF MAKSURA FINAL FORMhYEH FINAL FORMcBEH WITH REH FINAL FORMeZAIN FINAL FORM",
  "eMEEM FINAL FORMeNOON FINAL FORMeALEF MAKSURA FINAL FORMeYEH FINAL FORM",
  "cTEH WITH REH FINAL FORMeZAIN FINAL FORMeMEEM FINAL FORMeNOON FINAL FORM",
  "eALEF MAKSURA FINAL FORMeYEH FINAL FORMcTHEH WITH REH FINAL FORMeZAIN FINAL FORM",
  "eMEEM FINAL FORMeNOON FINAL FORMeALEF MAKSURA FINAL FORMeYEH FINAL FORM",
  "cFEH WITH ALEF MAKSURA FINAL FORMeYEH FINAL FORMcQAF WITH ALEF MAKSURA FINAL FORM",
  "eYEH FINAL FORMcKAF WITH ALEF FINAL FORMeLAM FINAL FORMeMEEM FINAL FORM",
  "eALEF MAKSURA FINAL FORMeYEH FINAL FORMcLAM WITH MEEM FINAL FORMeALEF MAKSURA FINAL FORM",
  "eYEH FINAL FORMcMEEM WITH ALEF FINAL FORMeMEEM FINAL FORMcNOON WITH REH FINAL FORM",
  "eZAIN FINAL FORMeMEEM FINAL FORMeNOON FINAL FORMeALEF MAKSURA FINAL FORMeYEH FINAL FORM",
  "cALEF MAKSURA WITH SUPERSCRIPT ALEF FINAL FORMcYEH WITH REH FINAL FORMeZAIN FINAL FORM",
  "eMEEM FINAL FORMeNOON FINAL FORMeALEF MAKSURA FINAL FORMeYEH FINAL FORM",
  "eHAMZA ABOVE WITH JEEM INITIAL FORMhHAH INITIAL FORMhKHAH INITIAL FORMhMEEM INITIAL FORM",
  "hHEH INITIAL FORMcBEH WITH JEEM INITIAL FORMeHAH INITIAL FORMeKHAH INITIAL FORM",
  "eMEEM INITIAL FORMeHEH INITIAL FORMcTEH WITH JEEM INITIAL FORMeHAH INITIAL FORM",
  "eKHAH INITIAL FORMeMEEM INITIAL FORMeHEH INITIAL FORMcTHEH WITH MEEM INITIAL FORM",
  "cJEEM WITH HAH INITIAL FORMeMEEM INITIAL FORMcHAH WITH JEEM INITIAL FORMeMEEM INITIAL FORM",
  "cKHAH WITH JEEM INITIAL FORMeMEEM INITIAL FORMcSEEN WITH JEEM INITIAL FORMeHAH INITIAL FORM",
  "eKHAH INITIAL FORMeMEEM INITIAL FORMcSAD WITH HAH INITIAL FORMeKHAH INITIAL FORM",
  "eMEEM INITIAL FORMcDAD WITH JEEM INITIAL FORMeHAH INITIAL FORMeKHAH INITIAL FORM",
  "eMEEM INITIAL FORMcTAH WITH HAH INITIAL FORMcZAH WITH MEEM INITIAL FORM",
  "cAIN WITH JEEM INITIAL FORMeMEEM INITIAL FORMcGHAIN WITH JEEM INITIAL FORMeMEEM INITIAL FORM",
  "cFEH WITH JEEM INITIAL FORMeHAH INITIAL FORMeKHAH INITIAL FORMeMEEM INITIAL FORM",
  "cQAF WITH HAH INITIAL FORMeMEEM INITIAL FORMcKAF WITH JEEM INITIAL FORMeHAH INITIAL FORM",
  "eKHAH INITIAL FORMeLAM INITIAL FORMeMEEM INITIAL FORMcLAM WITH JEEM INITIAL FORM",
  "eHAH INITIAL FORMeKHAH INITIAL FORMeMEEM INITIAL FORMeHEH INITIAL FORM",
  "cMEEM WITH JEEM INITIAL FORMeHAH INITIAL FORMeKHAH INITIAL FORMeMEEM INITIAL FORM",
  "cNOON WITH JEEM INITIAL FORMeHAH INITIAL FORMeKHAH INITIAL FORMeMEEM INITIAL FORM",
  "eHEH INITIAL FORMcHEH WITH JEEM INITIAL FORMeMEEM INITIAL FORMeSUPERSCRIPT ALEF INITIAL FORM",
  "cYEH WITH JEEM INITIAL FORMeHAH INITIAL FORMeKHAH INITIAL FORMeMEEM INITIAL FORM",
  "eHEH INITIAL FORMeHAMZA ABOVE WITH MEEM MEDIAL FORMhHEH MEDIAL FORMcBEH WITH MEEM MEDIAL FORM",
  "eHEH MEDIAL FORMcTEH WITH MEEM MEDIAL FORMeHEH MEDIAL FORMcTHEH WITH MEEM MEDIAL FORM",
  "eHEH MEDIAL FORMcSEEN WITH MEEM MEDIAL FORMeHEH MEDIAL FORMcSHEEN WITH MEEM MEDIAL FORM",
  "eHEH MEDIAL FORMcKAF WITH LAM MEDIAL FORMeMEEM MEDIAL FORMcLAM WITH MEEM MEDIAL FORM",
  "cNOON WITH MEEM MEDIAL FORMeHEH MEDIAL FORMcYEH WITH MEEM MEDIAL FORMeHEH MEDIAL FORM",
  "cSHADDA WITH FATHA MEDIAL FORMeDAMMA MEDIAL FORMeKASRA MEDIAL FORM",
  "cTAH WITH ALEF MAKSURA ISOLATED FORMeYEH ISOLATED FORMcAIN WITH ALEF MAKSURA ISOLATED FORM",
  "eYEH ISOLATED FORMcGHAIN WITH ALEF MAKSURA ISOLATED FORMeYEH ISOLATED FORM",
  "cSEEN WITH ALEF MAKSURA ISOLATED FORMeYEH ISOLATED FORMcSHEEN WITH ALEF MAKSURA ISOLATED FORM",
  "eYEH ISOLATED FORMcHAH WITH ALEF MAKSURA ISOLATED FORMeYEH ISOLATED FORM",
  "cJEEM WITH ALEF MAKSURA ISOLATED FORMeYEH ISOLATED FORMcKHAH WITH ALEF MAKSURA ISOLATED FORM",
  "eYEH ISOLATED FORMcSAD WITH ALEF MAKSURA ISOLATED FORMeYEH ISOLATED FORM",
  "cDAD WITH ALEF MAKSURA ISOLATED FORMeYEH ISOLATED FORMcSHEEN WITH JEEM ISOLATED FORM",
  "eHAH ISOLATED FORMeKHAH ISOLATED FORMeMEEM ISOLATED FORMeREH ISOLATED FORM",
  "cSEEN WITH REH ISOLATED FORMcSAD WITH REH ISOLATED FORMcDAD WITH REH ISOLATED FORM",
  "cTAH WITH ALEF MAKSURA FINAL FORMeYEH FINAL FORMcAIN WITH ALEF MAKSURA FINAL FORM",
  "eYEH FINAL FORMcGHAIN WITH ALEF MAKSURA FINAL FORMeYEH FINAL FORM",
  "cSEEN WITH ALEF MAKSURA FINAL FORMeYEH FINAL FORMcSHEEN WITH ALEF MAKSURA FINAL FORM",
  "eYEH FINAL FORMcHAH WITH ALEF MAKSURA FINAL FORMeYEH FINAL FORM",
  "cJEEM WITH ALEF MAKSURA FINAL FORMeYEH FINAL FORMcKHAH WITH ALEF MAKSURA FINAL FORM",
  "eYEH FINAL FORMcSAD WITH ALEF MAKSURA FINAL FORMeYEH FINAL FORM",
  "cDAD WITH ALEF MAKSURA FINAL FORMeYEH FINAL FORMcSHEEN WITH JEEM FINAL FORMeHAH FINAL FORM",
  "eKHAH FINAL FORMeMEEM FINAL FORMeREH FINAL FORMcSEEN WITH REH FINAL FORM",
  "cSAD WITH REH FINAL FORMcDAD WITH REH FINAL FORMcSHEEN WITH JEEM INITIAL FORMeHAH INITIAL FORM",
  "eKHAH INITIAL FORMeMEEM INITIAL FORMcSEEN WITH HEH INITIAL FORMcSHEEN WITH HEH INITIAL FORM",
  "cTAH WITH MEEM INITIAL FORMcSEEN WITH JEEM MEDIAL FORMeHAH MEDIAL FORMeKHAH MEDIAL FORM",
  "cSHEEN WITH JEEM MEDIAL FORMeHAH MEDIAL FORMeKHAH MEDIAL FORMcTAH WITH MEEM MEDIAL FORM",
  "cZAH WITH MEEM MEDIAL FORMcALEF WITH FATHATAN FINAL FORMfISOLATED FORMaORNATE LEFT PARENTHESIS",
  "bRIGHT PARENTHESISaARABIC LIGATURE RAHIMAHU ALLAAHcRADI ALLAAHU ANHeANHAAeANHUMeANHUMAA",
  "eANHUNNAcSALLALLAAHU ALAYHI WA-AALIHcALAYHI AS-SALAAMcALAYHIM AS-SALAAMcALAYHIMAA AS-SALAAM",
  "cALAYHI AS-SALAATU WAS-SALAAMcQUDDISA SIRRAHcSALLALLAHU ALAYHI WAAALIHEE WA-SALLAM",
  "cALAYHAA AS-SALAAMcTABAARAKA WA-TAAALAAcRAHIMAHUM ALLAAHcTEH WITH JEEM WITH MEEM INITIAL FORM",
  "eHAH WITH JEEM FINAL FORMhINITIAL FORMgMEEM INITIAL FORMeKHAH WITH MEEM INITIAL FORM",
  "eMEEM WITH JEEM INITIAL FORMgHAH INITIAL FORMgKHAH INITIAL FORM",
  "cJEEM WITH MEEM WITH HAH FINAL FORMhINITIAL FORMcHAH WITH MEEM WITH YEH FINAL FORM",
  "gALEF MAKSURA FINAL FORMcSEEN WITH HAH WITH JEEM INITIAL FORMeJEEM WITH HAH INITIAL FORM",
  "gALEF MAKSURA FINAL FORMeMEEM WITH HAH FINAL FORMhINITIAL FORMgJEEM INITIAL FORM",
  "gMEEM FINAL FORMhINITIAL FORMcSAD WITH HAH WITH HAH FINAL FORMhINITIAL FORM",
  "eMEEM WITH MEEM FINAL FORMcSHEEN WITH HAH WITH MEEM FINAL FORMhINITIAL FORM",
  "eJEEM WITH YEH FINAL FORMeMEEM WITH KHAH FINAL FORMhINITIAL FORMgMEEM FINAL FORMhINITIAL FORM",
  "cDAD WITH HAH WITH ALEF MAKSURA FINAL FORMeKHAH WITH MEEM FINAL FORMhINITIAL FORM",
  "cTAH WITH MEEM WITH HAH FINAL FORMhINITIAL FORMgMEEM INITIAL FORMgYEH FINAL FORM",
  "cAIN WITH JEEM WITH MEEM FINAL FORMeMEEM WITH MEEM FINAL FORMhINITIAL FORM",
  "gALEF MAKSURA FINAL FORMcGHAIN WITH MEEM WITH MEEM FINAL FORMgYEH FINAL FORM",
  "gALEF MAKSURA FINAL FORMcFEH WITH KHAH WITH MEEM FINAL FORMhINITIAL FORM",
  "cQAF WITH MEEM WITH HAH FINAL FORMgMEEM FINAL FORMcLAM WITH HAH WITH MEEM FINAL FORM",
  "gYEH FINAL FORMgALEF MAKSURA FINAL FORMeJEEM WITH JEEM INITIAL FORMhFINAL FORM",
  "eKHAH WITH MEEM FINAL FORMhINITIAL FORMeMEEM WITH HAH FINAL FORMhINITIAL FORM",
  "cMEEM WITH HAH WITH JEEM INITIAL FORMgMEEM INITIAL FORMgYEH FINAL FORM",
  "eJEEM WITH HAH INITIAL FORMgMEEM INITIAL FORMeKHAH WITH JEEM INITIAL FORMgMEEM INITIAL FORM",
  ".FD92eJEEM WITH KHAH INITIAL FORMcHEH WITH MEEM WITH JEEM INITIAL FORMgMEEM INITIAL FORM",
  "cNOON WITH HAH WITH MEEM INITIAL FORMgALEF MAKSURA FINAL FORMeJEEM WITH MEEM FINAL FORM",
  "hINITIAL FORMgALEF MAKSURA FINAL FORMeMEEM WITH YEH FINAL FORMgALEF MAKSURA FINAL FORM",
  "cYEH WITH MEEM WITH MEEM FINAL FORMhINITIAL FORMcBEH WITH KHAH WITH YEH FINAL FORM",
  "cTEH WITH JEEM WITH YEH FINAL FORMgALEF MAKSURA FINAL FORMeKHAH WITH YEH FINAL FORM",
  "gALEF MAKSURA FINAL FORMeMEEM WITH YEH FINAL FORMgALEF MAKSURA FINAL FORM",
  "cJEEM WITH MEEM WITH YEH FINAL FORMeHAH WITH ALEF MAKSURA FINAL FORM",
  "eMEEM WITH ALEF MAKSURA FINAL FORMcSEEN WITH KHAH WITH ALEF MAKSURA FINAL FORM",
  "cSAD WITH HAH WITH YEH FINAL FORMcSHEEN WITH HAH WITH YEH FINAL FORM",
  "cDAD WITH HAH WITH YEH FINAL FORMcLAM WITH JEEM WITH YEH FINAL FORMeMEEM WITH YEH FINAL FORM",
  "cYEH WITH HAH WITH YEH FINAL FORMeJEEM WITH YEH FINAL FORMeMEEM WITH YEH FINAL FORM",
  "cMEEM WITH MEEM WITH YEH FINAL FORMcQAF WITH MEEM WITH YEH FINAL FORM",
  "cNOON WITH HAH WITH YEH FINAL FORMcQAF WITH MEEM WITH HAH INITIAL FORM",
  "cLAM WITH HAH WITH MEEM INITIAL FORMcAIN WITH MEEM WITH YEH FINAL FORM",
  "cKAF WITH MEEM WITH YEH FINAL FORMcNOON WITH JEEM WITH HAH INITIAL FORM",
  "cMEEM WITH KHAH WITH YEH FINAL FORMcLAM WITH JEEM WITH MEEM INITIAL FORM",
  "cKAF WITH MEEM WITH MEEM FINAL FORMcLAM WITH JEEM WITH MEEM FINAL FORM",
  "cNOON WITH JEEM WITH HAH FINAL FORMcJEEM WITH HAH WITH YEH FINAL FORM",
  "cHAH WITH JEEM WITH YEH FINAL FORMcMEEM WITH JEEM WITH YEH FINAL FORM",
  "cFEH WITH MEEM WITH YEH FINAL FORMcBEH WITH HAH WITH YEH FINAL FORM",
  "cKAF WITH MEEM WITH MEEM INITIAL FORMcAIN WITH JEEM WITH MEEM INITIAL FORM",
  "cSAD WITH MEEM WITH MEEM INITIAL FORMcSEEN WITH KHAH WITH YEH FINAL FORM",
  "cNOON WITH JEEM WITH YEH FINAL FORM.FDCFcSALAAMUHU ALAYNAA",
  ".FDF0cSALLA USED AS KORANIC STOP SIGN ISOLATED FORM",
  "cQALA USED AS KORANIC STOP SIGN ISOLATED FORMcALLAH ISOLATED FORMcAKBAR ISOLATED FORM",
  "cMOHAMMAD ISOLATED FORMcSALAM ISOLATED FORMcRASOUL ISOLATED FORMcALAYHE ISOLATED FORM",
  "cWASALLAM ISOLATED FORMcSALLA ISOLATED FORMcSALLALLAHOU ALAYHE WASALLAMcJALLAJALALOUHOU",
  "aRIAL SIGNaARABIC LIGATURE BISMILLAH AR-RAHMAN AR-RAHEEMcSUBHAANAHU WA TAAALAAcAZZA WA JALL",
  ".FE10aPRESENTATION FORM FOR VERTICAL COMMAeIDEOGRAPHIC COMMAfFULL STOPeCOLONeSEMICOLON",
  "eEXCLAMATION MARKeQUESTION MARKeLEFT WHITE LENTICULAR BRACKETeRIGHT WHITE LENTICULAR BRAKCET",
  "eHORIZONTAL ELLIPSIS.FE20aCOMBINING LIGATURE LEFT HALFcRIGHT HALFbDOUBLE TILDE LEFT HALF",
  "dRIGHT HALFbMACRON LEFT HALFcRIGHT HALFbCONJOINING MACRONbLIGATURE LEFT HALF BELOW",
  "cRIGHT HALF BELOWbTILDE LEFT HALF BELOWcRIGHT HALF BELOWbMACRON LEFT HALF BELOW",
  "cRIGHT HALF BELOWbCONJOINING MACRON BELOWbCYRILLIC TITLO LEFT HALFdRIGHT HALF",
  "aPRESENTATION FORM FOR VERTICAL TWO DOT LEADEReEM DASHeEN DASHeLOW LINEeWAVY LOW LINE",
  "eLEFT PARENTHESISeRIGHT PARENTHESISeLEFT CURLY BRACKETeRIGHT CURLY BRACKET",
  "eLEFT TORTOISE SHELL BRACKETeRIGHT TORTOISE SHELL BRACKETeLEFT BLACK LENTICULAR BRACKET",
  "eRIGHT BLACK LENTICULAR BRACKETeLEFT DOUBLE ANGLE BRACKETeRIGHT DOUBLE ANGLE BRACKET",
  "eLEFT ANGLE BRACKETeRIGHT ANGLE BRACKETeLEFT CORNER BRACKETeRIGHT CORNER BRACKET",
  "eLEFT WHITE CORNER BRACKETeRIGHT WHITE CORNER BRACKETaSESAME DOTaWHITE SESAME DOT",
  "aPRESENTATION FORM FOR VERTICAL LEFT SQUARE BRACKETeRIGHT SQUARE BRACKETaDASHED OVERLINE",
  "aCENTRELINE OVERLINEaWAVY OVERLINEaDOUBLE WAVY OVERLINEaDASHED LOW LINEaCENTRELINE LOW LINE",
  "aWAVY LOW LINEaSMALL COMMAbIDEOGRAPHIC COMMAbFULL STOP.FE54bSEMICOLONbCOLONbQUESTION MARK",
  "bEXCLAMATION MARKbEM DASHbLEFT PARENTHESISbRIGHT PARENTHESISbLEFT CURLY BRACKET",
  "bRIGHT CURLY BRACKETbLEFT TORTOISE SHELL BRACKETbRIGHT TORTOISE SHELL BRACKETbNUMBER SIGN",
  "bAMPERSANDbASTERISKbPLUS SIGNbHYPHEN-MINUSbLESS-THAN SIGNbGREATER-THAN SIGNbEQUALS SIGN",
  ".FE68bREVERSE SOLIDUSbDOLLAR SIGNbPERCENT SIGNbCOMMERCIAL AT",
  ".FE70aARABIC FATHATAN ISOLATED FORMbTATWEEL WITH FATHATAN ABOVEbDAMMATAN ISOLATED FORM",
  "bTAIL FRAGMENTbKASRATAN ISOLATED FORM.FE76bFATHA ISOLATED FORMcMEDIAL FORMbDAMMA ISOLATED FORM",
  "cMEDIAL FORMbKASRA ISOLATED FORMcMEDIAL FORMbSHADDA ISOLATED FORMcMEDIAL FORM",
  "bSUKUN ISOLATED FORMcMEDIAL FORMbLETTER HAMZA ISOLATED FORM",
  "cALEF WITH MADDA ABOVE ISOLATED FORMgFINAL FORMeHAMZA ABOVE ISOLATED FORMgFINAL FORM",
  "cWAW WITH HAMZA ABOVE ISOLATED FORMgFINAL FORMcALEF WITH HAMZA BELOW ISOLATED FORMgFINAL FORM",
  "cYEH WITH HAMZA ABOVE ISOLATED FORMgFINAL FORMgINITIAL FORMgMEDIAL FORMcALEF ISOLATED FORM",
  "dFINAL FORMcBEH ISOLATED FORMdFINAL FORMdINITIAL FORMdMEDIAL FORMcTEH MARBUTA ISOLATED FORM",
  "eFINAL FORMdISOLATED FORMdFINAL FORMdINITIAL FORMdMEDIAL FORMcTHEH ISOLATED FORMdFINAL FORM",
  "dINITIAL FORMdMEDIAL FORMcJEEM ISOLATED FORMdFINAL FORMdINITIAL FORMdMEDIAL FORM",
  "cHAH ISOLATED FORMdFINAL FORMdINITIAL FORMdMEDIAL FORMcKHAH ISOLATED FORMdFINAL FORM",
  "dINITIAL FORMdMEDIAL FORMcDAL ISOLATED FORMdFINAL FORMcTHAL ISOLATED FORMdFINAL FORM",
  "cREH ISOLATED FORMdFINAL FORMcZAIN ISOLATED FORMdFINAL FORMcSEEN ISOLATED FORMdFINAL FORM",
  "dINITIAL FORMdMEDIAL FORMcSHEEN ISOLATED FORMdFINAL FORMdINITIAL FORMdMEDIAL FORM",
  "cSAD ISOLATED FORMdFINAL FORMdINITIAL FORMdMEDIAL FORMcDAD ISOLATED FORMdFINAL FORM",
  "dINITIAL FORMdMEDIAL FORMcTAH ISOLATED FORMdFINAL FORMdINITIAL FORMdMEDIAL FORM",
  "cZAH ISOLATED FORMdFINAL FORMdINITIAL FORMdMEDIAL FORMcAIN ISOLATED FORMdFINAL FORM",
  "dINITIAL FORMdMEDIAL FORMcGHAIN ISOLATED FORMdFINAL FORMdINITIAL FORMdMEDIAL FORM",
  "cFEH ISOLATED FORMdFINAL FORMdINITIAL FORMdMEDIAL FORMcQAF ISOLATED FORMdFINAL FORM",
  "dINITIAL FORMdMEDIAL FORMcKAF ISOLATED FORMdFINAL FORMdINITIAL FORMdMEDIAL FORM",
  "cLAM ISOLATED FORMdFINAL FORMdINITIAL FORMdMEDIAL FORMcMEEM ISOLATED FORMdFINAL FORM",
  "dINITIAL FORMdMEDIAL FORMcNOON ISOLATED FORMdFINAL FORMdINITIAL FORMdMEDIAL FORM",
  "cHEH ISOLATED FORMdFINAL FORMdINITIAL FORMdMEDIAL FORMcWAW ISOLATED FORMdFINAL FORM",
  "cALEF MAKSURA ISOLATED FORMeFINAL FORMcYEH ISOLATED FORMdFINAL FORMdINITIAL FORMdMEDIAL FORM",
  "bLIGATURE LAM WITH ALEF WITH MADDA ABOVE ISOLATED FORMiFINAL FORMgHAMZA ABOVE ISOLATED FORM",
  "iFINAL FORMhBELOW ISOLATED FORMiFINAL FORMfISOLATED FORMfFINAL FORM",
  ".FEFFaZERO WIDTH NO-BREAK SPACE.FF01aFULLWIDTH EXCLAMATION MARKbQUOTATION MARKbNUMBER SIGN",
  "bDOLLAR SIGNbPERCENT SIGNbAMPERSANDbAPOSTROPHEbLEFT PARENTHESISbRIGHT PARENTHESISbASTERISK",
  "bPLUS SIGNbCOMMAbHYPHEN-MINUSbFULL STOPbSOLIDUSbDIGIT ZEROcONEcTWOcTHREEcFOURcFIVEcSIXcSEVEN",
  "cEIGHTcNINEbCOLONbSEMICOLONbLESS-THAN SIGNbEQUALS SIGNbGREATER-THAN SIGNbQUESTION MARK",
  "bCOMMERCIAL ATbLATIN CAPITAL LETTER AeBeCeDeEeFeGeHeIeJeKeLeMeNeOePeQeReSeTeUeVeWeXeYeZ",
  "bLEFT SQUARE BRACKETbREVERSE SOLIDUSbRIGHT SQUARE BRACKETbCIRCUMFLEX ACCENTbLOW LINE",
  "bGRAVE ACCENTbLATIN SMALL LETTER AeBeCeDeEeFeGeHeIeJeKeLeMeNeOePeQeReSeTeUeVeWeXeYeZ",
  "bLEFT CURLY BRACKETbVERTICAL LINEbRIGHT CURLY BRACKETbTILDEbLEFT WHITE PARENTHESIS",
  "bRIGHT WHITE PARENTHESISaHALFWIDTH IDEOGRAPHIC FULL STOPbLEFT CORNER BRACKET",
  "bRIGHT CORNER BRACKETbIDEOGRAPHIC COMMAbKATAKANA MIDDLE DOTcLETTER WOdSMALL AeIeUeEeOeYAeYUeYO",
  "eTUbKATAKANA-HIRAGANA PROLONGED SOUND MARKbKATAKANA LETTER AdIdUdEdOdKAdKIdKUdKEdKOdSAdSIdSU",
  "dSEdSOdTAdTIdTUdTEdTOdNAdNIdNUdNEdNOdHAdHIdHUdHEdHOdMAdMIdMUdMEdMOdYAdYUdYOdRAdRIdRUdREdROdWA",
  "dNcVOICED SOUND MARKcSEMI-VOICED SOUND MARKbHANGUL FILLERcLETTER KIYEOKdSSANGKIYEOK",
  "dKIYEOK-SIOSdNIEUNdNIEUN-CIEUCdNIEUN-HIEUHdTIKEUTdSSANGTIKEUTdRIEULdRIEUL-KIYEOKdRIEUL-MIEUM",
  "dRIEUL-PIEUPdRIEUL-SIOSdRIEUL-THIEUTHdRIEUL-PHIEUPHdRIEUL-HIEUHdMIEUMdPIEUPdSSANGPIEUP",
  "dPIEUP-SIOSdSIOSdSSANGSIOSdIEUNGdCIEUCdSSANGCIEUCdCHIEUCHdKHIEUKHdTHIEUTHdPHIEUPHdHIEUH.FFC2dA",
  "dAEdYAdYAEdEOdE.FFCAdYEOdYEdOdWAdWAEdOE.FFD2dYOdUdWEOdWEdWIdYU.FFDAdEUdYIdI",
  ".FFE0aFULLWIDTH CENT SIGNbPOUND SIGNbNOT SIGNbMACRONbBROKEN BARbYEN SIGNbWON SIGN",
  ".FFE8aHALFWIDTH FORMS LIGHT VERTICALbLEFTWARDS ARROWbUPWARDS ARROWbRIGHTWARDS ARROW",
  "bDOWNWARDS ARROWbBLACK SQUAREbWHITE CIRCLE.FFF9aINTERLINEAR ANNOTATION ANCHORcSEPARATOR",
  "cTERMINATORaOBJECT REPLACEMENT CHARACTERaREPLACEMENT CHARACTER"]

end Literate.Text
