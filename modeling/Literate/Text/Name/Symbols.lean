/-! Names of characters from U+1D000 on: notes, mathematical alphabets and pictographs. -/

namespace Literate.Text

/-- each name behind what it shares with the one before -/
def symbolNames : List String := [
  ".1D000aBYZANTINE MUSICAL SYMBOL PSILIdDASEIAdPERISPOMENIdOXEIA EKFONITIKONeDIPLI",
  "dVAREIA EKFONITIKONeDIPLIdKATHISTIdSYRMATIKIdPARAKLITIKIdYPOKRISISeDIPLIdKREMASTI",
  "dAPESO EKFONITIKONdEXO EKFONITIKONdTELEIAdKENTIMATAdAPOSTROFOSeDIPLIdSYNEVMAdTHITA",
  "dOLIGON ARCHAIONdGORGON ARCHAIONdPSILONdCHAMILONdVATHYdISON ARCHAIONdKENTIMA ARCHAION",
  "dKENTIMATA ARCHAIONdSAXIMATAdPARICHONdSTAVROS APODEXIAdOXEIAI ARCHAIONdVAREIAI ARCHAION",
  "dAPODERMA ARCHAIONdAPOTHEMAdKLASMAdREVMAdPIASMA ARCHAIONdTINAGMAdANATRICHISMAdSEISMA",
  "dSYNAGMA ARCHAIONeMETA STAVROUdOYRANISMA ARCHAIONdTHEMAdLEMOIdDYOdTRIAdTESSERAdKRATIMATA",
  "dAPESO EXO NEOdFTHORA ARCHAIONdIMIFTHORAdTROMIKON ARCHAIONdKATAVA TROMIKONdPELASTONdPSIFISTON",
  "dKONTEVMAdCHOREVMA ARCHAIONdRAPISMAdPARAKALESMA ARCHAIONdPARAKLITIKI ARCHAIONdICHADINdNANA",
  "dPETASMAdKONTEVMA ALLOdTROMIKON ALLOdSTRAGGISMATAdGRONTHISMATAdISON NEOdOLIGON NEOdOXEIA NEO",
  "dPETASTIdKOUFISMAdPETASTOKOUFISMAdKRATIMOKOUFISMAdPELASTON NEOdKENTIMATA NEO ANO",
  "dKENTIMA NEO ANOdYPSILIdAPOSTROFOS NEOdAPOSTROFOI SYNDESMOS NEOdYPORROIdKRATIMOYPORROON",
  "dELAFRONdCHAMILIdMIKRON ISONdVAREIA NEOdPIASMA NEOdPSIFISTON NEOdOMALONdANTIKENOMAdLYGISMA",
  "dPARAKLITIKI NEOdPARAKALESMA NEOdETERON PARAKALESMAdKYLISMAdANTIKENOKYLISMAdTROMIKON NEO",
  "dEKSTREPTONdSYNAGMA NEOdSYRMAdCHOREVMA NEOdEPEGERMAdSEISMA NEOdXIRON KLASMAdTROMIKOPSIFISTON",
  "dPSIFISTOLYGISMAdTROMIKOLYGISMAdTROMIKOPARAKALESMAdPSIFISTOPARAKALESMAdTROMIKOSYNAGMA",
  "dPSIFISTOSYNAGMAdGORGOSYNTHETONdARGOSYNTHETONdETERON ARGOSYNTHETONdOYRANISMA NEO",
  "dTHEMATISMOS ESOeEXOdTHEMA APLOUNdTHES KAI APOTHESdKATAVASMAdENDOFONONdYFEN KATOeANOdSTAVROS",
  "dKLASMA ANOdDIPLI ARCHAIONdKRATIMA ARCHAIONeALLOeNEOdAPODERMA NEOdAPLIdDIPLIdTRIPLIdTETRAPLI",
  "dKORONISdLEIMMA ENOS CHRONOUeDYO CHRONONeTRION CHRONONeTESSARON CHRONONeIMISEOS CHRONOU",
  "dGORGON NEO ANOePARESTIGMENON ARISTERAfDEXIAdDIGORGONePARESTIGMENON ARISTERA KATOgANOfDEXIA",
  "dTRIGORGONdARGONdIMIDIARGONdDIARGONdAGOGI POLI ARGIeARGOTERIeARGIeMETRIAeMESIeGORGIeGORGOTERI",
  "ePOLI GORGIdMARTYRIA PROTOS ICHOSeALLI PROTOS ICHOSeDEYTEROS ICHOSeALLI DEYTEROS ICHOS",
  "eTRITOS ICHOSeTRIFONIASeTETARTOS ICHOSfLEGETOS ICHOSeLEGETOS ICHOSePLAGIOS ICHOS",
  "dISAKIA TELOUS ICHIMATOSdAPOSTROFOI TELOUS ICHIMATOSdFANEROSIS TETRAFONIASeMONOFONIASeDIFONIAS",
  "dMARTYRIA VARYS ICHOSePROTOVARYS ICHOSePLAGIOS TETARTOS ICHOSdGORTHMIKON N APLOUNfDIPLOUN",
  "dENARXIS KAI FTHORA VOUdIMIFONONdIMIFTHORONdFTHORA ARCHAION DEYTEROU ICHOUeDIATONIKI PAfNANA",
  "eNAOS ICHOSeDIATONIKI DIeSKLIRON DIATONON DIeDIATONIKI KEfZOfNI KATOgANO",
  "eMALAKON CHROMA DIFONIASgMONOFONIASdFHTORA SKLIRON CHROMA VASISdFTHORA SKLIRON CHROMA SYNAFI",
  "eNENANOdCHROA ZYGOSeKLITONeSPATHIdFTHORA I YFESIS TETARTIMORIONeENARMONIOS ANTIFONIA",
  "dYFESIS TRITIMORIONdDIESIS TRITIMORIONeTETARTIMORIONeAPLI DYO DODEKATA",
  "eMONOGRAMMOS TESSERA DODEKATAeDIGRAMMOS EX DODEKATAeTRIGRAMMOS OKTO DODEKATA",
  "dYFESIS APLI DYO DODEKATAeMONOGRAMMOS TESSERA DODEKATAeDIGRAMMOS EX DODEKATA",
  "eTRIGRAMMOS OKTO DODEKATAdGENIKI DIESISeYFESISdDIASTOLI APLI MIKRIfMEGALIeDIPLIeTHESEOS",
  "dSIMANSIS THESEOSfDISIMOUfTRISIMOUfTETRASIMOUeARSEOSfDISIMOUfTRISIMOUfTETRASIMOUdDIGRAMMA GG",
  "dDIFTOGGOS OUdSTIGMAdARKTIKO PAeVOUeGAeDIeKEeZOeNIdKENTIMATA NEO MESOdKENTIMA NEO MESO",
  "dKENTIMATA NEO KATOdKENTIMA NEO KATOdKLASMA KATOdGORGON NEO KATO",
  ".1D100aMUSICAL SYMBOL SINGLE BARLINEcDOUBLE BARLINEcFINAL BARLINEcREVERSE FINAL BARLINE",
  "cDASHED BARLINEcSHORT BARLINEcLEFT REPEAT SIGNcRIGHT REPEAT SIGNcREPEAT DOTScDAL SEGNOcDA CAPO",
  "cSEGNOcCODAcREPEATED FIGURE-1dFIGURE-2dFIGURE-3cFERMATAdBELOWcBREATH MARKcCAESURAcBRACE",
  "cBRACKETcONE-LINE STAFFcTWO-LINE STAFFcTHREE-LINE STAFFcFOUR-LINE STAFFcFIVE-LINE STAFF",
  "cSIX-LINE STAFFcSIX-STRING FRETBOARDcFOUR-STRING FRETBOARDcG CLEFeOTTAVA ALTAfBASSAcC CLEF",
  "cF CLEFeOTTAVA ALTAfBASSAcDRUM CLEF-1dCLEF-2.1D129cMULTIPLE MEASURE RESTcDOUBLE SHARPdFLAT",
  "cFLAT UPdDOWNcNATURAL UPdDOWNcSHARP UPdDOWNcQUARTER TONE SHARPeFLATcCOMMON TIMEcCUT TIME",
  "cOTTAVA ALTAdBASSAcQUINDICESIMA ALTAdBASSAcMULTI RESTcWHOLE RESTcHALF RESTcQUARTER REST",
  "cEIGHTH RESTcSIXTEENTH RESTcTHIRTY-SECOND RESTcSIXTY-FOURTH REST",
  "cONE HUNDRED TWENTY-EIGHTH RESTcX NOTEHEADcPLUS NOTEHEADcCIRCLE X NOTEHEAD",
  "cSQUARE NOTEHEAD WHITEeBLACKcTRIANGLE NOTEHEAD UP WHITEfBLACKeLEFT WHITEfBLACKeRIGHT WHITE",
  "fBLACKeDOWN WHITEfBLACKeUP RIGHT WHITEgBLACKcMOON NOTEHEAD WHITEeBLACK",
  "cTRIANGLE-ROUND NOTEHEAD DOWN WHITEfBLACKcPARENTHESIS NOTEHEADcVOID NOTEHEADcNOTEHEAD BLACK",
  "cNULL NOTEHEADcCLUSTER NOTEHEAD WHITEeBLACKcBREVEcWHOLE NOTEcHALF NOTEcQUARTER NOTE",
  "cEIGHTH NOTEcSIXTEENTH NOTEcTHIRTY-SECOND NOTEcSIXTY-FOURTH NOTE",
  "cONE HUNDRED TWENTY-EIGHTH NOTEcCOMBINING STEMdSPRECHGESANG STEMdTREMOLO-1dTREMOLO-2dTREMOLO-3",
  "cFINGERED TREMOLO-1dTREMOLO-2dTREMOLO-3cCOMBINING AUGMENTATION DOTdFLAG-1dFLAG-2dFLAG-3dFLAG-4",
  "dFLAG-5cBEGIN BEAMcEND BEAMcBEGIN TIEcEND TIEcBEGIN SLURcEND SLURcBEGIN PHRASEcEND PHRASE",
  "cCOMBINING ACCENTdSTACCATOdTENUTOdSTACCATISSIMOdMARCATOdMARCATO-STACCATOdACCENT-STACCATOdLOURE",
  "cARPEGGIATO UPdDOWNcCOMBINING DOITdRIPdFLIPdSMEARdBENDdDOUBLE TONGUEdTRIPLE TONGUEcRINFORZANDO",
  "cSUBITOcZcPIANOcMEZZOcFORTEcCRESCENDOcDECRESCENDOcGRACE NOTE SLASHeNO SLASHcTRcTURN",
  "cINVERTED TURNcTURN SLASHdUPcORNAMENT STROKE-1dSTROKE-2dSTROKE-3dSTROKE-4dSTROKE-5dSTROKE-6",
  "dSTROKE-7dSTROKE-8dSTROKE-9dSTROKE-10dSTROKE-11cHAUPTSTIMMEcNEBENSTIMMEcEND OF STIMME",
  "cDEGREE SLASHcCOMBINING DOWN BOWdUP BOWdHARMONICdSNAP PIZZICATOcPEDAL MARKdUP MARK",
  "cHALF PEDAL MARKcGLISSANDO UPdDOWNcWITH FINGERNAILScDAMPdALLcMAXIMAcLONGAcBREVIS",
  "cSEMIBREVIS WHITEdBLACKcMINIMAdBLACKcSEMIMINIMA WHITEdBLACKcFUSA WHITEdBLACK",
  "cLONGA PERFECTA RESTdIMPERFECTA RESTcBREVIS RESTcSEMIBREVIS RESTcMINIMA RESTcSEMIMINIMA REST",
  "cTEMPUS PERFECTUM CUM PROLATIONE PERFECTAgIMPERFECTAgPERFECTA DIMINUTION-1",
  "dIMPERFECTUM CUM PROLATIONE PERFECTAgIMPERFECTAhDIMINUTION-1hDIMINUTION-2hDIMINUTION-3cCROIX",
  "cGREGORIAN C CLEFdF CLEFcSQUARE BcVIRGAcPODATUScCLIVIScSCANDICUScCLIMACUScTORCULUScPORRECTUS",
  "dFLEXUScSCANDICUS FLEXUScTORCULUS RESUPINUScPES SUBPUNCTIScKIEVAN C CLEFdEND OF PIECE",
  "dFINAL NOTEdRECITATIVE MARKdWHOLE NOTEdHALF NOTEdQUARTER NOTE STEM DOWNgUP",
  "dEIGHTH NOTE STEM DOWNgUPdFLAT SIGNcSORIcKORON.1D200aGREEK VOCAL NOTATION SYMBOL-1dSYMBOL-2",
  "dSYMBOL-3dSYMBOL-4dSYMBOL-5dSYMBOL-6dSYMBOL-7dSYMBOL-8dSYMBOL-9dSYMBOL-10dSYMBOL-11dSYMBOL-12",
  "dSYMBOL-13dSYMBOL-14dSYMBOL-15dSYMBOL-16dSYMBOL-17dSYMBOL-18dSYMBOL-19dSYMBOL-20dSYMBOL-21",
  "dSYMBOL-22dSYMBOL-23dSYMBOL-24dSYMBOL-50dSYMBOL-51dSYMBOL-52dSYMBOL-53dSYMBOL-54",
  "bINSTRUMENTAL NOTATION SYMBOL-1dSYMBOL-2dSYMBOL-4dSYMBOL-5dSYMBOL-7dSYMBOL-8dSYMBOL-11",
  "dSYMBOL-12dSYMBOL-13dSYMBOL-14dSYMBOL-17dSYMBOL-18dSYMBOL-19dSYMBOL-23dSYMBOL-24dSYMBOL-25",
  "dSYMBOL-26dSYMBOL-27dSYMBOL-29dSYMBOL-30dSYMBOL-32dSYMBOL-36dSYMBOL-37dSYMBOL-38dSYMBOL-39",
  "dSYMBOL-40dSYMBOL-42dSYMBOL-43dSYMBOL-45dSYMBOL-47dSYMBOL-48dSYMBOL-49dSYMBOL-50dSYMBOL-51",
  "dSYMBOL-52dSYMBOL-53dSYMBOL-54aCOMBINING GREEK MUSICAL TRISEMEdTETRASEMEdPENTASEME",
  "aGREEK MUSICAL LEIMMA.1D2E0aMAYAN NUMERAL ZEROcONEcTWOcTHREEcFOURcFIVEcSIXcSEVENcEIGHTcNINE",
  "cTENcELEVENcTWELVEcTHIRTEENcFOURTEENcFIFTEENcSIXTEENcSEVENTEENcEIGHTEENcNINETEEN",
  ".1D300aMONOGRAM FOR EARTHaDIGRAM FOR HEAVENLY EARTHcHUMAN EARTHcEARTHLY HEAVENdHUMANcEARTH",
  "aTETRAGRAM FOR CENTREcFULL CIRCLEcMIREDcBARRIERcKEEPING SMALLcCONTRARIETYcASCENTcOPPOSITION",
  "cBRANCHING OUTcDEFECTIVENESS OR DISTORTIONcDIVERGENCEcYOUTHFULNESScINCREASEcPENETRATIONcREACH",
  "cCONTACTcHOLDING BACKcWAITINGcFOLLOWINGcADVANCEcRELEASEcRESISTANCEcEASEcJOYcCONTENTION",
  "cENDEAVOURcDUTIEScCHANGEcDECISIVENESScBOLD RESOLUTIONcPACKINGcLEGIONcCLOSENESScKINSHIP",
  "cGATHERINGcSTRENGTHcPURITYcFULLNESScRESIDENCEcLAW OR MODELcRESPONSEcGOING TO MEETcENCOUNTERS",
  "cSTOVEcGREATNESScENLARGEMENTcPATTERNcRITUALcFLIGHTcVASTNESS OR WASTINGcCONSTANCYcMEASURE",
  "cETERNITYcUNITYcDIMINISHMENTcCLOSED MOUTHcGUARDEDNESScGATHERING INcMASSINGcACCUMULATION",
  "cEMBELLISHMENTcDOUBTcWATCHcSINKINGcINNERcDEPARTUREcDARKENINGcDIMMINGcEXHAUSTIONcSEVERANCE",
  "cSTOPPAGEcHARDNESScCOMPLETIONcCLOSUREcFAILUREcAGGRAVATIONcCOMPLIANCEcON THE VERGEcDIFFICULTIES",
  "cLABOURINGcFOSTERING.1D360aCOUNTING ROD UNIT DIGIT ONEeTWOeTHREEeFOUReFIVEeSIXeSEVENeEIGHT",
  "eNINEcTENS DIGIT ONEeTWOeTHREEeFOUReFIVEeSIXeSEVENeEIGHTeNINEaIDEOGRAPHIC TALLY MARK ONEdTWO",
  "dTHREEdFOURdFIVEaTALLY MARK ONEcFIVE.1D400aMATHEMATICAL BOLD CAPITAL AdBdCdDdEdFdGdHdIdJdKdLdM",
  "dNdOdPdQdRdSdTdUdVdWdXdYdZcSMALL AdBdCdDdEdFdGdHdIdJdKdLdMdNdOdPdQdRdSdTdUdVdWdXdYdZ",
  "bITALIC CAPITAL AdBdCdDdEdFdGdHdIdJdKdLdMdNdOdPdQdRdSdTdUdVdWdXdYdZcSMALL AdBdCdDdEdFdG",
  ".1D456dIdJdKdLdMdNdOdPdQdRdSdTdUdVdWdXdYdZbBOLD ITALIC CAPITAL AeBeCeDeEeFeGeHeIeJeKeLeMeNeOeP",
  "eQeReSeTeUeVeWeXeYeZdSMALL AeBeCeDeEeFeGeHeIeJeKeLeMeNeOePeQeReSeTeUeVeWeXeYeZ",
  "bSCRIPT CAPITAL A.1D49EdCdD.1D4A2dG.1D4A5dJdK.1D4A9dNdOdPdQ.1D4AEdSdTdUdVdWdXdYdZcSMALL AdBdC",
  "dD.1D4BBdF.1D4BDdHdIdJdKdLdMdN.1D4C5dPdQdRdSdTdUdVdWdXdYdZbBOLD SCRIPT CAPITAL AeBeCeDeEeFeGeH",
  "eIeJeKeLeMeNeOePeQeReSeTeUeVeWeXeYeZdSMALL AeBeCeDeEeFeGeHeIeJeKeLeMeNeOePeQeReSeTeUeVeWeXeYeZ",
  "bFRAKTUR CAPITAL AdB.1D507dDdEdFdG.1D50DdJdKdLdMdNdOdPdQ.1D516dSdTdUdVdWdXdY.1D51EcSMALL AdBdC",
  "dDdEdFdGdHdIdJdKdLdMdNdOdPdQdRdSdTdUdVdWdXdYdZbDOUBLE-STRUCK CAPITAL AdB.1D53BdDdEdFdG.1D540dI",
  "dJdKdLdM.1D546dO.1D54AdSdTdUdVdWdXdY.1D552cSMALL AdBdCdDdEdFdGdHdIdJdKdLdMdNdOdPdQdRdSdTdUdVdW",
  "dXdYdZbBOLD FRAKTUR CAPITAL AeBeCeDeEeFeGeHeIeJeKeLeMeNeOePeQeReSeTeUeVeWeXeYeZdSMALL AeBeCeD",
  "eEeFeGeHeIeJeKeLeMeNeOePeQeReSeTeUeVeWeXeYeZbSANS-SERIF CAPITAL AdBdCdDdEdFdGdHdIdJdKdLdMdNdO",
  "dPdQdRdSdTdUdVdWdXdYdZcSMALL AdBdCdDdEdFdGdHdIdJdKdLdMdNdOdPdQdRdSdTdUdVdWdXdYdZ",
  "cBOLD CAPITAL AeBeCeDeEeFeGeHeIeJeKeLeMeNeOePeQeReSeTeUeVeWeXeYeZdSMALL AeBeCeDeEeFeGeHeIeJeK",
  "eLeMeNeOePeQeReSeTeUeVeWeXeYeZcITALIC CAPITAL AeBeCeDeEeFeGeHeIeJeKeLeMeNeOePeQeReSeTeUeVeWeX",
  "eYeZdSMALL AeBeCeDeEeFeGeHeIeJeKeLeMeNeOePeQeReSeTeUeVeWeXeYeZcBOLD ITALIC CAPITAL AfBfCfDfEfF",
  "fGfHfIfJfKfLfMfNfOfPfQfRfSfTfUfVfWfXfYfZeSMALL AfBfCfDfEfFfGfHfIfJfKfLfMfNfOfPfQfRfSfTfUfVfWfX",
  "fYfZbMONOSPACE CAPITAL AdBdCdDdEdFdGdHdIdJdKdLdMdNdOdPdQdRdSdTdUdVdWdXdYdZcSMALL AdBdCdDdEdFdG",
  "dHdIdJdKdLdMdNdOdPdQdRdSdTdUdVdWdXdYdZbITALIC SMALL DOTLESS IeJ.1D6A8bBOLD CAPITAL ALPHAdBETA",
  "dGAMMAdDELTAdEPSILONdZETAdETAdTHETAdIOTAdKAPPAdLAMDAdMUdNUdXIdOMICRONdPIdRHOdTHETA SYMBOL",
  "dSIGMAdTAUdUPSILONdPHIdCHIdPSIdOMEGAcNABLAcSMALL ALPHAdBETAdGAMMAdDELTAdEPSILONdZETAdETAdTHETA",
  "dIOTAdKAPPAdLAMDAdMUdNUdXIdOMICRONdPIdRHOdFINAL SIGMAdSIGMAdTAUdUPSILONdPHIdCHIdPSIdOMEGA",
  "cPARTIAL DIFFERENTIALcEPSILON SYMBOLcTHETA SYMBOLcKAPPA SYMBOLcPHI SYMBOLcRHO SYMBOLcPI SYMBOL",
  "bITALIC CAPITAL ALPHAdBETAdGAMMAdDELTAdEPSILONdZETAdETAdTHETAdIOTAdKAPPAdLAMDAdMUdNUdXI",
  "dOMICRONdPIdRHOdTHETA SYMBOLdSIGMAdTAUdUPSILONdPHIdCHIdPSIdOMEGAcNABLAcSMALL ALPHAdBETAdGAMMA",
  "dDELTAdEPSILONdZETAdETAdTHETAdIOTAdKAPPAdLAMDAdMUdNUdXIdOMICRONdPIdRHOdFINAL SIGMAdSIGMAdTAU",
  "dUPSILONdPHIdCHIdPSIdOMEGAcPARTIAL DIFFERENTIALcEPSILON SYMBOLcTHETA SYMBOLcKAPPA SYMBOL",
  "cPHI SYMBOLcRHO SYMBOLcPI SYMBOLbBOLD ITALIC CAPITAL ALPHAeBETAeGAMMAeDELTAeEPSILONeZETAeETA",
  "eTHETAeIOTAeKAPPAeLAMDAeMUeNUeXIeOMICRONePIeRHOeTHETA SYMBOLeSIGMAeTAUeUPSILONePHIeCHIePSI",
  "eOMEGAdNABLAdSMALL ALPHAeBETAeGAMMAeDELTAeEPSILONeZETAeETAeTHETAeIOTAeKAPPAeLAMDAeMUeNUeXI",
  "eOMICRONePIeRHOeFINAL SIGMAeSIGMAeTAUeUPSILONePHIeCHIePSIeOMEGAdPARTIAL DIFFERENTIAL",
  "dEPSILON SYMBOLdTHETA SYMBOLdKAPPA SYMBOLdPHI SYMBOLdRHO SYMBOLdPI SYMBOL",
  "bSANS-SERIF BOLD CAPITAL ALPHAeBETAeGAMMAeDELTAeEPSILONeZETAeETAeTHETAeIOTAeKAPPAeLAMDAeMUeNU",
  "eXIeOMICRONePIeRHOeTHETA SYMBOLeSIGMAeTAUeUPSILONePHIeCHIePSIeOMEGAdNABLAdSMALL ALPHAeBETA",
  "eGAMMAeDELTAeEPSILONeZETAeETAeTHETAeIOTAeKAPPAeLAMDAeMUeNUeXIeOMICRONePIeRHOeFINAL SIGMAeSIGMA",
  "eTAUeUPSILONePHIeCHIePSIeOMEGAdPARTIAL DIFFERENTIALdEPSILON SYMBOLdTHETA SYMBOLdKAPPA SYMBOL",
  "dPHI SYMBOLdRHO SYMBOLdPI SYMBOLdITALIC CAPITAL ALPHAfBETAfGAMMAfDELTAfEPSILONfZETAfETAfTHETA",
  "fIOTAfKAPPAfLAMDAfMUfNUfXIfOMICRONfPIfRHOfTHETA SYMBOLfSIGMAfTAUfUPSILONfPHIfCHIfPSIfOMEGA",
  "eNABLAeSMALL ALPHAfBETAfGAMMAfDELTAfEPSILONfZETAfETAfTHETAfIOTAfKAPPAfLAMDAfMUfNUfXIfOMICRON",
  "fPIfRHOfFINAL SIGMAfSIGMAfTAUfUPSILONfPHIfCHIfPSIfOMEGAePARTIAL DIFFERENTIALeEPSILON SYMBOL",
  "eTHETA SYMBOLeKAPPA SYMBOLePHI SYMBOLeRHO SYMBOLePI SYMBOLbBOLD CAPITAL DIGAMMAcSMALL DIGAMMA",
  ".1D7CEcDIGIT ZEROdONEdTWOdTHREEdFOURdFIVEdSIXdSEVENdEIGHTdNINEbDOUBLE-STRUCK DIGIT ZEROdONE",
  "dTWOdTHREEdFOURdFIVEdSIXdSEVENdEIGHTdNINEbSANS-SERIF DIGIT ZEROdONEdTWOdTHREEdFOURdFIVEdSIX",
  "dSEVENdEIGHTdNINEcBOLD DIGIT ZEROeONEeTWOeTHREEeFOUReFIVEeSIXeSEVENeEIGHTeNINE",
  "bMONOSPACE DIGIT ZEROdONEdTWOdTHREEdFOURdFIVEdSIXdSEVENdEIGHTdNINEaSIGNWRITING HAND-FIST INDEX",
  "bHAND-CIRCLE INDEXbHAND-CUP INDEXbHAND-OVAL INDEXbHAND-HINGE INDEXbHAND-ANGLE INDEX",
  "bHAND-FIST INDEX BENTbHAND-CIRCLE INDEX BENTbHAND-FIST THUMB UNDER INDEX BENT",
  "cINDEX RAISED KNUCKLEdCUPPEDdHINGEDeLOWbHAND-CIRCLE INDEX HINGEbHAND-FIST INDEX MIDDLE",
  "bHAND-CIRCLE INDEX MIDDLEbHAND-FIST INDEX MIDDLE BENTeRAISED KNUCKLESeHINGEDdUP MIDDLE HINGED",
  "dHINGED MIDDLE UPdMIDDLE CONJOINEDfINDEX BENTfMIDDLE BENTfCUPPEDfHINGEDeCROSSED",
  "bHAND-CIRCLE INDEX MIDDLE CROSSEDbHAND-FIST MIDDLE BENT OVER INDEXcINDEX BENT OVER MIDDLE",
  "dMIDDLE THUMBbHAND-CIRCLE INDEX MIDDLE THUMBbHAND-FIST INDEX MIDDLE STRAIGHT THUMB BENT",
  "eBENT THUMB STRAIGHTeTHUMB BENTeHINGED SPREAD THUMB SIDEdUP MIDDLE HINGED THUMB SIDEhCONJOINED",
  "dHINGED MIDDLE UP THUMB SIDEdMIDDLE UP SPREAD THUMB FORWARDeTHUMB CUPPEDfCIRCLEDfHOOKEDfHINGED",
  "cTHUMB BETWEEN INDEX MIDDLE STRAIGHTcINDEX MIDDLE CONJOINED THUMB SIDEhCONJOINEDhBENT",
  "cMIDDLE THUMB HOOKED INDEX UPcINDEX THUMB HOOKED MIDDLE UPdMIDDLE CONJOINED HINGED THUMB SIDE",
  "eCROSSED THUMB SIDEeCONJOINED THUMB FORWARDfCUPPED THUMB FORWARDcMIDDLE THUMB CUPPED INDEX UP",
  "cINDEX THUMB CUPPED MIDDLE UPcMIDDLE THUMB CIRCLED INDEX UPgHINGED",
  "cINDEX THUMB ANGLED OUT MIDDLE UPfIN MIDDLE UPeCIRCLED MIDDLE UPdMIDDLE THUMB CONJOINED HINGED",
  "fANGLED OUTgcMIDDLE THUMB ANGLED OUT INDEX UPhCROSSEDfINDEX UP",
  "cINDEX THUMB HOOKED MIDDLE HINGEDbHAND-FLAT FOUR FINGERSeBENTeHINGEDeCONJOINEDfSPLIT",
  "bHAND-CLAW FOUR FINGERS CONJOINEDbHAND-FIST FOUR FINGERS CONJOINED BENT",
  "bHAND-HINGE FOUR FINGERS CONJOINEDbHAND-FLAT FIVE FINGERS SPREADcHEEL FIVE FINGERS SPREAD",
  "cFIVE FINGERS SPREAD FOUR BENTcHEEL FIVE FINGERS SPREAD FOUR BENTcFIVE FINGERS SPREAD BENT",
  "cHEEL FIVE FINGERS SPREAD BENTcFIVE FINGERS SPREAD THUMB FORWARDbHAND-CUP FIVE FINGERS SPREAD",
  "fOPENbHAND-HINGE FIVE FINGERS SPREAD OPENbHAND-OVAL FIVE FINGERS SPREAD",
  "bHAND-FLAT FIVE FINGERS SPREAD HINGEDgTHUMB SIDEgNO THUMBccBETWEEN PALM FACINGScHEEL",
  "cTHUMB SIDEcHEEL THUMB SIDEcTHUMB BENTdFORWARDcSPLIT INDEX THUMB SIDEdCENTREeTHUMB SIDEgBENT",
  "dLITTLEbHAND-CLAWcTHUMB SIDEcNO THUMBcTHUMB FORWARDbHAND-HOOK CURLICUEcbHAND-CUP OPENc",
  "cOPEN THUMB SIDEcTHUMB SIDEcOPEN NO THUMBcNO THUMBcOPEN THUMB FORWARDcTHUMB FORWARD",
  "bHAND-CURLICUE OPENcbHAND-CIRCLEbHAND-OVALcTHUMB SIDEcNO THUMBcTHUMB FORWARDbHAND-HINGE OPEN",
  "dTHUMB FORWARDccSMALLcOPEN THUMB SIDEcTHUMB SIDEcOPEN NO THUMBcNO THUMB",
  "cTHUMB SIDE TOUCHING INDEXdBETWEEN MIDDLE RINGbHAND-ANGLEbHAND-FIST INDEX MIDDLE RING",
  "bHAND-CIRCLE INDEX MIDDLE RINGbHAND-HINGE INDEX MIDDLE RINGbHAND-ANGLE INDEX MIDDLE RING",
  "bHAND-HINGE LITTLEbHAND-FIST INDEX MIDDLE RING BENTfCONJOINED",
  "bHAND-HINGE INDEX MIDDLE RING CONJOINEDbHAND-FIST LITTLE DOWNeRIPPLE STRAIGHTfCURVED",
  "eOTHERS CIRCLEDdUPcTHUMB UNDER LITTLE UPbHAND-CIRCLE LITTLE UPbHAND-OVAL LITTLE UP",
  "bHAND-ANGLE LITTLE UPbHAND-FIST LITTLE RAISED KNUCKLEdBENTdTOUCHES THUMBdTHUMB",
  "bHAND-HINGE LITTLE THUMBbHAND-FIST LITTLE INDEX THUMBbHAND-HINGE LITTLE INDEX THUMB",
  "bHAND-ANGLE LITTLE INDEX THUMB INDEX THUMB OUThbHAND-FIST LITTLE INDEX",
  "bHAND-CIRCLE LITTLE INDEXbHAND-HINGE LITTLE INDEXbHAND-ANGLE LITTLE INDEX",
  "bHAND-FIST INDEX MIDDLE LITTLEbHAND-CIRCLE INDEX MIDDLE LITTLEbHAND-HINGE INDEX MIDDLE LITTLE",
  "cRINGbHAND-ANGLE INDEX MIDDLE LITTLEbHAND-FIST INDEX MIDDLE CROSS LITTLE",
  "bHAND-CIRCLE INDEX MIDDLE CROSS LITTLEbHAND-FIST RING DOWN",
  "bHAND-HINGE RING DOWN INDEX THUMB HOOK MIDDLEbHAND-ANGLE RING DOWN MIDDLE THUMB INDEX CROSS",
  "bHAND-FIST RING UPdRAISED KNUCKLEdLITTLEbHAND-CIRCLE RING LITTLEbHAND-OVAL RING LITTLE",
  "bHAND-ANGLE RING LITTLEbHAND-FIST RING MIDDLEeCONJOINEDeRAISED KNUCKLESdINDEXdTHUMB",
  "bHAND-HOOK RING THUMBbHAND-FIST INDEX RING LITTLEbHAND-CIRCLE INDEX RING LITTLE",
  "bHAND-CURLICUE INDEX RING LITTLE ONbHAND-HOOK INDEX RING LITTLE OUTfINfUNDER",
  "bHAND-CUP INDEX RING LITTLEbHAND-HINGE INDEX RING LITTLEbHAND-ANGLE INDEX RING LITTLE OUTf",
  "bHAND-FIST MIDDLE DOWNbHAND-HINGE MIDDLEbHAND-FIST MIDDLE UPbHAND-CIRCLE MIDDLE UP",
  "bHAND-FIST MIDDLE RAISED KNUCKLEdUP THUMB SIDEbHAND-HOOK MIDDLE THUMB",
  "bHAND-FIST MIDDLE THUMB LITTLEdLITTLEdRING LITTLEbHAND-CIRCLE MIDDLE RING LITTLE",
  "bHAND-CURLICUE MIDDLE RING LITTLE ONbHAND-CUP MIDDLE RING LITTLEbHAND-HINGE MIDDLE RING LITTLE",
  "bHAND-ANGLE MIDDLE RING LITTLE OUTfINfbHAND-CIRCLE MIDDLE RING LITTLE BENT",
  "bHAND-CLAW MIDDLE RING LITTLE CONJOINEDgSIDEbHAND-HOOK MIDDLE RING LITTLE CONJOINED OUTgINg",
  "bHAND-HINGE INDEX HINGEDbHAND-FIST INDEX THUMB SIDEbHAND-HINGE INDEX THUMB SIDE",
  "bHAND-FIST INDEX THUMB SIDE THUMB DIAGONALgCONJOINEDgBENTfINDEX BENTfBOTH BENTfINDEX HINGE",
  "eFORWARD INDEX STRAIGHTgBENTeHOOKeCURLICUEeCURVE THUMB INSIDE",
  "bHAND-CLAW INDEX THUMB CURVE THUMB INSIDEbHAND-FIST INDEX THUMB CURVE THUMB UNDEReCIRCLE",
  "bHAND-CUP INDEX THUMBeOPENbHAND-HINGE INDEX THUMB OPENeLARGEeeSMALLbHAND-ANGLE INDEX THUMB OUT",
  "eINebHAND-FIST THUMBdHEELdSIDE DIAGONALeCONJOINEDeBENTdFORWARDdBETWEEN INDEX MIDDLE",
  "eMIDDLE RINGeRING LITTLEdUNDER TWO FINGERSdOVER TWO FINGERSdUNDER THREE FINGERSeFOUR FINGERS",
  "dOVER FOUR RAISED KNUCKLESccHEELbTOUCH SINGLEcMULTIPLEcBETWEENbGRASP SINGLEcMULTIPLEcBETWEEN",
  "bSTRIKE SINGLEcMULTIPLEcBETWEENbBRUSH SINGLEcMULTIPLEcBETWEENbRUB SINGLEcMULTIPLEcBETWEEN",
  "bSURFACE SYMBOLScBETWEENbSQUEEZE LARGE SINGLEcSMALL SINGLEcLARGE MULTIPLEcSMALL MULTIPLE",
  "cSEQUENTIALbFLICK LARGE SINGLEcSMALL SINGLEcLARGE MULTIPLEcSMALL MULTIPLEcSEQUENTIAL",
  "bSQUEEZE FLICK ALTERNATINGbMOVEMENT-HINGE UP DOWN LARGEeSMALLdSEQUENTIALcDOWN SEQUENTIAL",
  "cUP DOWN ALTERNATING LARGEfSMALLcSIDE TO SIDE SCISSORSbMOVEMENT-WALLPLANE FINGER CONTACT",
  "bMOVEMENT-FLOORPLANE FINGER CONTACTbMOVEMENT-WALLPLANE SINGLE STRAIGHT SMALLeMEDIUMeLARGE",
  "eLARGESTdWRIST FLEXcDOUBLE STRAIGHTdWRIST FLEXdALTERNATINGeWRIST FLEXcCROSS",
  "cTRIPLE STRAIGHT MOVEMENTdWRIST FLEXdALTERNATINGeWRIST FLEXcBEND SMALLdMEDIUMdLARGE",
  "cCORNER SMALLdMEDIUMdLARGEdROTATIONcCHECK SMALLdMEDIUMdLARGEcBOX SMALLdMEDIUMdLARGE",
  "cZIGZAG SMALLdMEDIUMdLARGEcPEAKS SMALLdMEDIUMdLARGEbTRAVEL-WALLPLANE ROTATION-WALLPLANE SINGLE",
  "dDOUBLEdALTERNATINGcROTATION-FLOORPLANE SINGLEdDOUBLEdALTERNATINGcSHAKINGcARM SPIRAL SINGLE",
  "eDOUBLEeTRIPLEbMOVEMENT-DIAGONAL AWAY SMALLdMEDIUMdLARGEdLARGESTcTOWARDS SMALLdMEDIUMdLARGE",
  "dLARGESTcBETWEEN AWAY SMALLeMEDIUMeLARGEeLARGESTdTOWARDS SMALLeMEDIUMeLARGEeLARGEST",
  "bMOVEMENT-FLOORPLANE SINGLE STRAIGHT SMALLeMEDIUMeLARGEeLARGESTdWRIST FLEXcDOUBLE STRAIGHT",
  "dWRIST FLEXdALTERNATINGeWRIST FLEXcCROSScTRIPLE STRAIGHT MOVEMENTdWRIST FLEX",
  "dALTERNATING MOVEMENTeWRIST FLEXcBENDcCORNER SMALLdMEDIUMdLARGEcCHECKcBOX SMALLdMEDIUMdLARGE",
  "cZIGZAG SMALLdMEDIUMdLARGEcPEAKS SMALLdMEDIUMdLARGE",
  "bTRAVEL-FLOORPLANE ROTATION-FLOORPLANE SINGLEdDOUBLEdALTERNATINGcROTATION-WALLPLANE SINGLE",
  "dDOUBLEdALTERNATINGcSHAKINGbMOVEMENT-WALLPLANE CURVE QUARTER SMALLeMEDIUMeLARGEeLARGEST",
  "dHALF-CIRCLE SMALLeMEDIUMeLARGEeLARGESTdTHREE-QUARTER CIRCLE SMALLfMEDIUMcHUMP SMALLdMEDIUM",
  "dLARGEcLOOP SMALLdMEDIUMdLARGEdSMALL DOUBLEcWAVE CURVE DOUBLE SMALLfMEDIUMfLARGEeTRIPLE SMALL",
  "fMEDIUMfLARGEcCURVE THEN STRAIGHTcCURVED CROSS SMALLeMEDIUMbROTATION-WALLPLANE SINGLEcDOUBLE",
  "cALTERNATEbMOVEMENT-WALLPLANE SHAKINGcCURVE HITTING FRONT WALLcHUMP HITTING FRONT WALL",
  "cLOOP HITTING FRONT WALLcWAVE HITTING FRONT WALLbROTATION-WALLPLANE SINGLE HITTING FRONT WALL",
  "cDOUBLE HITTING FRONT WALLcALTERNATING HITTING FRONT WALL",
  "bMOVEMENT-WALLPLANE CURVE HITTING CHESTcHUMP HITTING CHESTcLOOP HITTING CHEST",
  "cWAVE HITTING CHESTbROTATION-WALLPLANE SINGLE HITTING CHESTcDOUBLE HITTING CHEST",
  "cALTERNATING HITTING CHESTbMOVEMENT-WALLPLANE WAVE DIAGONAL PATH SMALLfMEDIUMfLARGE",
  "bMOVEMENT-FLOORPLANE CURVE HITTING CEILING SMALLfLARGEcHUMP HITTING CEILING SMALL DOUBLE",
  "fLARGE DOUBLEfSMALL TRIPLEfLARGE TRIPLEcLOOP HITTING CEILING SMALL SINGLEfLARGE SINGLE",
  "fSMALL DOUBLEfLARGE DOUBLEcWAVE HITTING CEILING SMALLfLARGE",
  "bROTATION-FLOORPLANE SINGLE HITTING CEILINGcDOUBLE HITTING CEILINGcALTERNATING HITTING CEILING",
  "bMOVEMENT-FLOORPLANE CURVE HITTING FLOOR SMALLfLARGEcHUMP HITTING FLOOR SMALL DOUBLE",
  "fLARGE DOUBLEfTRIPLE SMALL TRIPLEgLARGE TRIPLEcLOOP HITTING FLOOR SMALL SINGLEfLARGE SINGLE",
  "fSMALL DOUBLEfLARGE DOUBLEcWAVE HITTING FLOOR SMALLfLARGE",
  "bROTATION-FLOORPLANE SINGLE HITTING FLOORcDOUBLE HITTING FLOORcALTERNATING HITTING FLOOR",
  "bMOVEMENT-FLOORPLANE CURVE SMALLdMEDIUMdLARGEdLARGESTdCOMBINEDcHUMP SMALLcLOOP SMALL",
  "cWAVE SNAKEdSMALLdLARGEbROTATION-FLOORPLANE SINGLEcDOUBLEcALTERNATING",
  "bMOVEMENT-FLOORPLANE SHAKING PARALLELbMOVEMENT-WALLPLANE ARM CIRCLE SMALL SINGLEeMEDIUM SINGLE",
  "eSMALL DOUBLEeMEDIUM DOUBLEbMOVEMENT-FLOORPLANE ARM CIRCLE HITTING WALL SMALL SINGLE",
  "gMEDIUM SINGLEgLARGE SINGLEgSMALL DOUBLEgMEDIUM DOUBLEgLARGE DOUBLE",
  "bMOVEMENT-WALLPLANE WRIST CIRCLE FRONT SINGLEfDOUBLE",
  "bMOVEMENT-FLOORPLANE WRIST CIRCLE HITTING WALL SINGLEgDOUBLE",
  "bMOVEMENT-WALLPLANE FINGER CIRCLES SINGLEeDOUBLE",
  "bMOVEMENT-FLOORPLANE FINGER CIRCLES HITTING WALL SINGLEgDOUBLEbDYNAMIC ARROWHEAD SMALLdLARGE",
  "cFASTcSLOWcTENSEcRELAXEDcSIMULTANEOUSdALTERNATINGcEVERY OTHER TIMEcGRADUALbHEADcRIM",
  "cMOVEMENT-WALLPLANE STRAIGHTdTILTcMOVEMENT-FLOORPLANE STRAIGHTcMOVEMENT-WALLPLANE CURVE",
  "cMOVEMENT-FLOORPLANE CURVEcMOVEMENT CIRCLEbFACE DIRECTION POSITION NOSE FORWARD TILTING",
  "fUP OR DOWNiTILTINGbEYEBROWS STRAIGHT UPdNEUTRALdDOWNbDREAMY EYEBROWS NEUTRAL DOWN",
  "dDOWN NEUTRALdUP NEUTRALdNEUTRAL UPbFOREHEAD NEUTRALcCONTACTcWRINKLEDbEYES OPENcSQUEEZED",
  "cCLOSEDbEYE BLINK SINGLEdMULTIPLEbEYES HALF OPENcWIDE OPENcHALF CLOSEDcWIDENING MOVEMENT",
  "bEYE WINKbEYELASHES UPcDOWNcFLUTTERINGbEYEGAZE-WALLPLANE STRAIGHTdDOUBLEdALTERNATING",
  "bEYEGAZE-FLOORPLANE STRAIGHTdDOUBLEdALTERNATINGbEYEGAZE-WALLPLANE CURVED",
  "bEYEGAZE-FLOORPLANE CURVEDbEYEGAZE-WALLPLANE CIRCLINGbCHEEKS PUFFEDcNEUTRALcSUCKED",
  "bTENSE CHEEKS HIGHdMIDDLEdLOWbEARSbNOSE NEUTRALcCONTACTcWRINKLEScWIGGLESbAIR BLOWING OUT",
  "cSUCKING INcBLOW SMALL ROTATIONScSUCK SMALL ROTATIONSbBREATH INHALEcEXHALE",
  "bMOUTH CLOSED NEUTRALdFORWARDdCONTACTcSMILEdWRINKLEDdOPENcFROWNdWRINKLEDdOPENcOPEN CIRCLE",
  "dFORWARDdWRINKLEDdOVALeWRINKLEDeYAWNdRECTANGLEeWRINKLEDeYAWNcKISSdFORWARDdWRINKLEDcTENSE",
  "dFORWARDdSUCKEDbLIPS PRESSED TOGETHERbLIP LOWER OVER UPPERcUPPER OVER LOWERbMOUTH CORNERS",
  "cWRINKLES SINGLEdDOUBLEbTONGUE STICKING OUT FARcLICKING LIPScTIP BETWEEN LIPS",
  "dTOUCHING INSIDE MOUTHcINSIDE MOUTH RELAXEDcMOVES AGAINST CHEEKcCENTRE STICKING OUT",
  "dINSIDE MOUTHbTEETHcMOVEMENTcON TONGUEeMOVEMENTdLIPSeMOVEMENTcBITE LIPSbMOVEMENT-WALLPLANE JAW",
  "bMOVEMENT-FLOORPLANE JAWbNECKbHAIRbEXCITEMENTbSHOULDER HIP SPINEdPOSITIONS",
  "bWALLPLANE SHOULDER HIP MOVEbFLOORPLANE SHOULDER HIP MOVEbSHOULDER TILTING FROM WAIST",
  "bTORSO-WALLPLANE STRAIGHT STRETCHcCURVED BENDbTORSO-FLOORPLANE TWISTING",
  "bUPPER BODY TILTING FROM HIP JOINTSbLIMB COMBINATIONcLENGTH-1cLENGTH-2cLENGTH-3cLENGTH-4",
  "cLENGTH-5cLENGTH-6cLENGTH-7bFINGERbLOCATION-WALLPLANE SPACEbLOCATION-FLOORPLANE SPACE",
  "bLOCATION HEIGHTcWIDTHcDEPTHcHEAD NECKcTORSOcLIMBS DIGITSbCOMMAbFULL STOPbSEMICOLONbCOLON",
  "bPARENTHESIS.1DA9BbFILL MODIFIER-2cMODIFIER-3cMODIFIER-4cMODIFIER-5cMODIFIER-6",
  ".1DAA1bROTATION MODIFIER-2cMODIFIER-3cMODIFIER-4cMODIFIER-5cMODIFIER-6cMODIFIER-7cMODIFIER-8",
  "cMODIFIER-9cMODIFIER-10cMODIFIER-11cMODIFIER-12cMODIFIER-13cMODIFIER-14cMODIFIER-15",
  "cMODIFIER-16.1DF00aLATIN SMALL LETTER FENG DIGRAPH WITH TRILLdREVERSED SCRIPT G",
  "bLETTER SMALL CAPITAL TURNED GbSMALL LETTER REVERSED KbLETTER SMALL CAPITAL L WITH BELT",
  "bSMALL LETTER LEZH WITH RETROFLEX HOOKdTURNED Y WITH BELTdREVERSED ENG",
  "dTURNED R WITH LONG LEG AND RETROFLEX HOOKdT WITH HOOK AND RETROFLEX HOOK",
  "bLETTER RETROFLEX CLICK WITH RETROFLEX HOOKbSMALL LETTER ESH WITH DOUBLE BARhAND CURL",
  "dTURNED T WITH CURLbLETTER INVERTED GLOTTAL STOP WITH CURLcSTRETCHED C WITH CURL",
  "cSMALL CAPITAL TURNED KbSMALL LETTER L WITH FISHHOOKdDEZH DIGRAPH WITH PALATAL HOOK",
  "dL WITH BELT AND PALATAL HOOKdENG WITH PALATAL HOOKdTURNED R WITH PALATAL HOOK",
  "dR WITH FISHHOOK AND PALATAL HOOKdTESH DIGRAPH WITH PALATAL HOOKdEZH WITH PALATAL HOOK",
  "dDEZH DIGRAPH WITH RETROFLEX HOOKdI WITH STROKE AND RETROFLEX HOOKdO WITH RETROFLEX HOOK",
  "dTESH DIGRAPH WITH RETROFLEX HOOKdC WITH RETROFLEX HOOKdS WITH CURL",
  ".1E000aCOMBINING GLAGOLITIC LETTER AZUdBUKYdVEDEdGLAGOLIdDOBROdYESTUdZHIVETE.1E008dZEMLJAdIZHE",
  "dINITIAL IZHEdIdDJERVIdKAKOdLJUDIJEdMYSLITEdNASHIdONUdPOKOJIdRITSIdSLOVOdTVRIDOdUKUdFRITUdHERU",
  ".1E01BdSHTAdTSIdCHRIVIdSHAdYERUdYERIdYATI.1E023dYUdSMALL YUS.1E026dYOdIOTATED SMALL YUS",
  "dBIG YUSdIOTATED BIG YUSdFITA.1E100aNYIAKENG PUACHUE HMONG LETTER MAeTSAeNTAeTAeHAeNAeXAeNKA",
  "eCAeLAeSAeZAeNCAeNTSAeKAeDAeNYAeNRAeVAeNTXAeTXAeFAeRAeQAeYAeNQAePAeXYAeNPAeDLAeNPLAeHAHeMLA",
  "ePLAeGAeRRAeAeAAeIeUeOeOOeEeEEeW.1E130dTONE-BdTONE-MdTONE-JdTONE-VdTONE-SdTONE-GdTONE-D",
  "dSIGN FOR PERSONfTHINGfLOCATIONfANIMALfINVERTEBRATEeXW XWdSYLLABLE LENGTHENER.1E140dDIGIT ZERO",
  "eONEeTWOeTHREEeFOUReFIVEeSIXeSEVENeEIGHTeNINE.1E14EdLOGOGRAM NYAJdCIRCLED CA",
  ".1E290aTOTO LETTER PAcBAcTAcDAcKAcGAcMAcNAcNGAcSAcCHAcYAcWAcJAcHAcRAcLAcIcBREATHY IcIU",
  "cBREATHY IUcUcEcBREATHY EcEOcBREATHY EOcOcAEcBREATHY AEcAbSIGN RISING TONE",
  ".1E2C0aWANCHO LETTER AAcAcBAcCAcDAcGAcYAcPHAcLAcNAcPAcTAcTHAcFAcSAcSHAcJAcZAcWAcVAcKAcOcAUcRA",
  "cMAcKHAcHAcEcIcNGAcUcLLHAcTSAcTRAcONGcAANGcANGcINGcONcENcAANcNYAcUENcYIHbTONE TUPcTUPNIcKOI",
  "cKOINIbDIGIT ZEROcONEcTWOcTHREEcFOURcFIVEcSIXcSEVENcEIGHTcNINE.1E2FFbNGUN SIGN",
  ".1E7E0aETHIOPIC SYLLABLE HHYAcHHYUcHHYIcHHYAAcHHYEEcHHYEcHHYO.1E7E8cGURAGE HHWAcHHWIcHHWEE",
  "cHHWE.1E7EDcGURAGE MWIdMWEE.1E7F0dQWIdQWEEdQWEdBWIdBWEEdKWIdKWEEdKWEdGWIdGWEEdGWEdFWIdFWEEdPWI",
  "dPWEE.1E800aMENDE KIKAKUI SYLLABLE M001 KIdM002 KAdM003 KUdM065 KEEdM095 KEdM076 KOOdM048 KO",
  "dM179 KUAdM004 WIdM005 WAdM006 WUdM126 WEEdM118 WEdM114 WOOdM045 WOdM194 WUIdM143 WEIdM061 WVI",
  "dM049 WVAdM139 WVEdM007 MINdM008 MANdM009 MUNdM059 MENdM094 MONdM154 MUANdM189 MUENdM010 BI",
  "dM011 BAdM012 BUdM150 BEEdM097 BEdM103 BOOdM138 BOdM013 IdM014 AdM015 UdM163 EEdM100 EdM165 OO",
  "dM147 OdM137 EIdM131 INdM135 INdM195 ANdM178 ENdM019 SIdM020 SAdM021 SUdM162 SEEdM116 SE",
  "dM136 SOOdM079 SOdM196 SIAdM025 LIdM026 LAdM027 LUdM084 LEEdM073 LEdM054 LOOdM153 LO",
  "dM110 LONG LEdM016 DIdM017 DAdM018 DUdM089 DEEdM180 DOOdM181 DOdM022 TIdM023 TAdM024 TU",
  "dM091 TEEdM055 TEdM104 TOOdM069 TOdM028 JIdM029 JAdM030 JUdM157 JEEdM113 JEdM160 JOOdM063 JO",
  "dM175 LONG JOdM031 YIdM032 YAdM033 YUdM109 YEEdM080 YEdM141 YOOdM121 YOdM034 FIdM035 FA",
  "dM036 FUdM078 FEEdM075 FEdM133 FOOdM088 FOdM197 FUAdM101 FANdM037 NINdM038 NANdM039 NUN",
  "dM117 NENdM169 NONdM176 HIdM041 HAdM186 HUdM040 HEEdM096 HEdM042 HOOdM140 HOdM083 HEEI",
  "dM128 HOOUdM053 HINdM130 HANdM087 HUNdM052 HENdM193 HONdM046 HUANdM090 NGGIdM043 NGGA",
  "dM082 NGGUdM115 NGGEEdM146 NGGEdM156 NGGOOdM120 NGGOdM159 NGGAAdM127 NGGUAdM086 LONG NGGE",
  "dM106 LONG NGGOOdM183 LONG NGGOdM155 GIdM111 GAdM168 GUdM190 GEEdM166 GUEIdM167 GUANdM184 NGEN",
  "dM057 NGONdM177 NGUANdM068 PIdM099 PAdM050 PUdM081 PEEdM051 PEdM102 POOdM066 POdM145 MBI",
  "dM062 MBAdM122 MBUdM047 MBEEdM188 MBEEdM072 MBEdM172 MBOOdM174 MBOdM187 MBUUdM161 LONG MBE",
  "dM105 LONG MBOOdM142 LONG MBOdM132 KPIdM092 KPAdM074 KPUdM044 KPEEdM108 KPEdM112 KPOOdM158 KPO",
  "dM124 GBIdM056 GBAdM148 GBUdM093 GBEEdM107 GBEdM071 GBOOdM070 GBOdM171 RAdM123 NDIdM129 NDA",
  "dM125 NDUdM191 NDEEdM119 NDEdM067 NDOOdM064 NDOdM152 NJAdM192 NJUdM149 NJEEdM134 NJOOdM182 VI",
  "dM185 VAdM151 VUdM173 VEEdM085 VEdM144 VOOdM077 VOdM164 NYINdM058 NYANdM170 NYUNdM098 NYEN",
  "dM060 NYON.1E8C7cDIGIT ONEdTWOdTHREEdFOURdFIVEdSIXdSEVENdEIGHTdNINEcCOMBINING NUMBER TEENS",
  "eTENSeHUNDREDSeTHOUSANDSeTEN THOUSANDSeHUNDRED THOUSANDSeMILLIONS",
  ".1E900aADLAM CAPITAL LETTER ALIFdDAALIdLAAMdMIIMdBAdSINNYIIYHEdPEdBHEdRAdEdFAdIdOdDHAdYHEdWAW",
  "dNUNdKAFdYAdUdJIIMdCHIdHAdQAAFdGAdNYAdTUdNHAdVAdKHAdGBEdZALdKPOdSHAbSMALL LETTER ALIFdDAALI",
  "dLAAMdMIIMdBAdSINNYIIYHEdPEdBHEdRAdEdFAdIdOdDHAdYHEdWAWdNUNdKAFdYAdUdJIIMdCHIdHAdQAAFdGAdNYA",
  "dTUdNHAdVAdKHAdGBEdZALdKPOdSHAbALIF LENGTHENERbVOWEL LENGTHENERbGEMINATION MARKbHAMZA",
  "bCONSONANT MODIFIERbGEMINATE CONSONANT MODIFIERbNUKTAbNASALIZATION MARK.1E950bDIGIT ZEROcONE",
  "cTWOcTHREEcFOURcFIVEcSIXcSEVENcEIGHTcNINE.1E95EbINITIAL EXCLAMATION MARKcQUESTION MARK",
  ".1EC71aINDIC SIYAQ NUMBER ONEdTWOdTHREEdFOURdFIVEdSIXdSEVENdEIGHTdNINEdTENdTWENTYdTHIRTYdFORTY",
  "dFIFTYdSIXTYdSEVENTYdEIGHTYdNINETYdONE HUNDREDdTWO HUNDREDdTHREE HUNDREDdFOUR HUNDRED",
  "dFIVE HUNDREDdSIX HUNDREDdSEVEN HUNDREDdEIGHT HUNDREDdNINE HUNDREDdONE THOUSANDdTWO THOUSAND",
  "dTHREE THOUSANDdFOUR THOUSANDdFIVE THOUSANDdSIX THOUSANDdSEVEN THOUSANDdEIGHT THOUSAND",
  "dNINE THOUSANDdTEN THOUSANDdTWENTY THOUSANDdTHIRTY THOUSANDdFORTY THOUSANDdFIFTY THOUSAND",
  "dSIXTY THOUSANDdSEVENTY THOUSANDdEIGHTY THOUSANDdNINETY THOUSANDdLAKHdLAKHANcLAKH MARK",
  "cNUMBER KARORdKARORANdPREFIXED ONEeTWOeTHREEeFOUReFIVEeSIXeSEVENeEIGHTeNINEcPLACEHOLDER",
  "cFRACTION ONE QUARTEReHALFdTHREE QUARTERScRUPEE MARKcNUMBER ALTERNATE ONEeTWOeTEN THOUSAND",
  "cALTERNATE LAKH MARK.1ED01aOTTOMAN SIYAQ NUMBER ONEdTWOdTHREEdFOURdFIVEdSIXdSEVENdEIGHTdNINE",
  "dTENdTWENTYdTHIRTYdFORTYdFIFTYdSIXTYdSEVENTYdEIGHTYdNINETYdONE HUNDREDdTWO HUNDRED",
  "dTHREE HUNDREDdFOUR HUNDREDdFIVE HUNDREDdSIX HUNDREDdSEVEN HUNDREDdEIGHT HUNDREDdNINE HUNDRED",
  "dONE THOUSANDdTWO THOUSANDdTHREE THOUSANDdFOUR THOUSANDdFIVE THOUSANDdSIX THOUSAND",
  "dSEVEN THOUSANDdEIGHT THOUSANDdNINE THOUSANDdTEN THOUSANDdTWENTY THOUSANDdTHIRTY THOUSAND",
  "dFORTY THOUSANDdFIFTY THOUSANDdSIXTY THOUSANDdSEVENTY THOUSANDdEIGHTY THOUSANDdNINETY THOUSAND",
  "cMARRATANcALTERNATE NUMBER TWOeTHREEeFOUReFIVEeSIXeSEVENeEIGHTeNINEeTENeFOUR HUNDRED",
  "eSIX HUNDREDeTWO THOUSANDeTEN THOUSANDcFRACTION ONE HALFeSIXTH.1EE00aARABIC MATHEMATICAL ALEF",
  "cBEHcJEEMcDAL.1EE05cWAWcZAINcHAHcTAHcYEHcKAFcLAMcMEEMcNOONcSEENcAINcFEHcSADcQAFcREHcSHEENcTEH",
  "cTHEHcKHAHcTHALcDADcZAHcGHAINcDOTLESS BEHdNOONdFEHdQAF.1EE21cINITIAL BEHdJEEM.1EE24dHEH",
  ".1EE27dHAH.1EE29dYEHdKAFdLAMdMEEMdNOONdSEENdAINdFEHdSADdQAF.1EE34dSHEENdTEHdTHEHdKHAH",
  ".1EE39dDAD.1EE3BdGHAIN.1EE42cTAILED JEEM.1EE47dHAH.1EE49dYEH.1EE4BdLAM.1EE4DdNOONdSEENdAIN",
  ".1EE51dSADdQAF.1EE54dSHEEN.1EE57dKHAH.1EE59dDAD.1EE5BdGHAIN.1EE5DdDOTLESS NOON.1EE5FeQAF",
  ".1EE61cSTRETCHED BEHdJEEM.1EE64dHEH.1EE67dHAHdTAHdYEHdKAF.1EE6CdMEEMdNOONdSEENdAINdFEHdSADdQAF",
  ".1EE74dSHEENdTEHdTHEHdKHAH.1EE79dDADdZAHdGHAINdDOTLESS BEH.1EE7EeFEH.1EE80cLOOPED ALEFdBEH",
  "dJEEMdDALdHEHdWAWdZAINdHAHdTAHdYEH.1EE8BdLAMdMEEMdNOONdSEENdAINdFEHdSADdQAFdREHdSHEENdTEHdTHEH",
  "dKHAHdTHALdDADdZAHdGHAIN.1EEA1cDOUBLE-STRUCK BEHdJEEMdDAL.1EEA5dWAWdZAINdHAHdTAHdYEH.1EEABdLAM",
  "dMEEMdNOONdSEENdAINdFEHdSADdQAFdREHdSHEENdTEHdTHEHdKHAHdTHALdDADdZAHdGHAIN",
  ".1EEF0cOPERATOR MEEM WITH HAH WITH TATWEELdHAH WITH DAL.1F000aMAHJONG TILE EAST WIND",
  "cSOUTH WINDcWEST WINDcNORTH WINDcRED DRAGONcGREEN DRAGONcWHITE DRAGONcONE OF CHARACTERS",
  "cTWO OF CHARACTERScTHREE OF CHARACTERScFOUR OF CHARACTERScFIVE OF CHARACTERScSIX OF CHARACTERS",
  "cSEVEN OF CHARACTERScEIGHT OF CHARACTERScNINE OF CHARACTERScONE OF BAMBOOScTWO OF BAMBOOS",
  "cTHREE OF BAMBOOScFOUR OF BAMBOOScFIVE OF BAMBOOScSIX OF BAMBOOScSEVEN OF BAMBOOS",
  "cEIGHT OF BAMBOOScNINE OF BAMBOOScONE OF CIRCLEScTWO OF CIRCLEScTHREE OF CIRCLES",
  "cFOUR OF CIRCLEScFIVE OF CIRCLEScSIX OF CIRCLEScSEVEN OF CIRCLEScEIGHT OF CIRCLES",
  "cNINE OF CIRCLEScPLUMcORCHIDcBAMBOOcCHRYSANTHEMUMcSPRINGcSUMMERcAUTUMNcWINTERcJOKERcBACK",
  ".1F030aDOMINO TILE HORIZONTAL BACKcHORIZONTAL-00-00cHORIZONTAL-00-01cHORIZONTAL-00-02",
  "cHORIZONTAL-00-03cHORIZONTAL-00-04cHORIZONTAL-00-05cHORIZONTAL-00-06cHORIZONTAL-01-00",
  "cHORIZONTAL-01-01cHORIZONTAL-01-02cHORIZONTAL-01-03cHORIZONTAL-01-04cHORIZONTAL-01-05",
  "cHORIZONTAL-01-06cHORIZONTAL-02-00cHORIZONTAL-02-01cHORIZONTAL-02-02cHORIZONTAL-02-03",
  "cHORIZONTAL-02-04cHORIZONTAL-02-05cHORIZONTAL-02-06cHORIZONTAL-03-00cHORIZONTAL-03-01",
  "cHORIZONTAL-03-02cHORIZONTAL-03-03cHORIZONTAL-03-04cHORIZONTAL-03-05cHORIZONTAL-03-06",
  "cHORIZONTAL-04-00cHORIZONTAL-04-01cHORIZONTAL-04-02cHORIZONTAL-04-03cHORIZONTAL-04-04",
  "cHORIZONTAL-04-05cHORIZONTAL-04-06cHORIZONTAL-05-00cHORIZONTAL-05-01cHORIZONTAL-05-02",
  "cHORIZONTAL-05-03cHORIZONTAL-05-04cHORIZONTAL-05-05cHORIZONTAL-05-06cHORIZONTAL-06-00",
  "cHORIZONTAL-06-01cHORIZONTAL-06-02cHORIZONTAL-06-03cHORIZONTAL-06-04cHORIZONTAL-06-05",
  "cHORIZONTAL-06-06cVERTICAL BACKcVERTICAL-00-00cVERTICAL-00-01cVERTICAL-00-02cVERTICAL-00-03",
  "cVERTICAL-00-04cVERTICAL-00-05cVERTICAL-00-06cVERTICAL-01-00cVERTICAL-01-01cVERTICAL-01-02",
  "cVERTICAL-01-03cVERTICAL-01-04cVERTICAL-01-05cVERTICAL-01-06cVERTICAL-02-00cVERTICAL-02-01",
  "cVERTICAL-02-02cVERTICAL-02-03cVERTICAL-02-04cVERTICAL-02-05cVERTICAL-02-06cVERTICAL-03-00",
  "cVERTICAL-03-01cVERTICAL-03-02cVERTICAL-03-03cVERTICAL-03-04cVERTICAL-03-05cVERTICAL-03-06",
  "cVERTICAL-04-00cVERTICAL-04-01cVERTICAL-04-02cVERTICAL-04-03cVERTICAL-04-04cVERTICAL-04-05",
  "cVERTICAL-04-06cVERTICAL-05-00cVERTICAL-05-01cVERTICAL-05-02cVERTICAL-05-03cVERTICAL-05-04",
  "cVERTICAL-05-05cVERTICAL-05-06cVERTICAL-06-00cVERTICAL-06-01cVERTICAL-06-02cVERTICAL-06-03",
  "cVERTICAL-06-04cVERTICAL-06-05cVERTICAL-06-06.1F0A0aPLAYING CARD BACKcACE OF SPADES",
  "cTWO OF SPADEScTHREE OF SPADEScFOUR OF SPADEScFIVE OF SPADEScSIX OF SPADEScSEVEN OF SPADES",
  "cEIGHT OF SPADEScNINE OF SPADEScTEN OF SPADEScJACK OF SPADEScKNIGHT OF SPADEScQUEEN OF SPADES",
  "cKING OF SPADES.1F0B1cACE OF HEARTScTWO OF HEARTScTHREE OF HEARTScFOUR OF HEARTS",
  "cFIVE OF HEARTScSIX OF HEARTScSEVEN OF HEARTScEIGHT OF HEARTScNINE OF HEARTScTEN OF HEARTS",
  "cJACK OF HEARTScKNIGHT OF HEARTScQUEEN OF HEARTScKING OF HEARTScRED JOKER",
  ".1F0C1cACE OF DIAMONDScTWO OF DIAMONDScTHREE OF DIAMONDScFOUR OF DIAMONDScFIVE OF DIAMONDS",
  "cSIX OF DIAMONDScSEVEN OF DIAMONDScEIGHT OF DIAMONDScNINE OF DIAMONDScTEN OF DIAMONDS",
  "cJACK OF DIAMONDScKNIGHT OF DIAMONDScQUEEN OF DIAMONDScKING OF DIAMONDScBLACK JOKER",
  ".1F0D1cACE OF CLUBScTWO OF CLUBScTHREE OF CLUBScFOUR OF CLUBScFIVE OF CLUBScSIX OF CLUBS",
  "cSEVEN OF CLUBScEIGHT OF CLUBScNINE OF CLUBScTEN OF CLUBScJACK OF CLUBScKNIGHT OF CLUBS",
  "cQUEEN OF CLUBScKING OF CLUBScWHITE JOKERcFOOLcTRUMP-1cTRUMP-2cTRUMP-3cTRUMP-4cTRUMP-5cTRUMP-6",
  "cTRUMP-7cTRUMP-8cTRUMP-9cTRUMP-10cTRUMP-11cTRUMP-12cTRUMP-13cTRUMP-14cTRUMP-15cTRUMP-16",
  "cTRUMP-17cTRUMP-18cTRUMP-19cTRUMP-20cTRUMP-21.1F100aDIGIT ZERO FULL STOPcCOMMAbONE COMMA",
  "bTWO COMMAbTHREE COMMAbFOUR COMMAbFIVE COMMAbSIX COMMAbSEVEN COMMAbEIGHT COMMAbNINE COMMA",
  "aDINGBAT CIRCLED SANS-SERIF DIGIT ZERObNEGATIVE CIRCLED SANS-SERIF DIGIT ZERO",
  "aCIRCLED ZERO WITH SLASHbANTICLOCKWISE ARROWbDOLLAR SIGN WITH OVERLAID BACKSLASH",
  "aPARENTHESIZED LATIN CAPITAL LETTER AeBeCeDeEeFeGeHeIeJeKeLeMeNeOePeQeReSeTeUeVeWeXeYeZ",
  "aTORTOISE SHELL BRACKETED LATIN CAPITAL LETTER SaCIRCLED ITALIC LATIN CAPITAL LETTER CfRbCDbWZ",
  "aCOPYLEFT SYMBOLaSQUARED LATIN CAPITAL LETTER AeBeCeDeEeFeGeHeIeJeKeLeMeNeOePeQeReSeTeUeVeWeX",
  "eYeZbHVbMVbSDbSSbPPVbWCaNEGATIVE CIRCLED LATIN CAPITAL LETTER AfBfCfDfEfFfGfHfIfJfKfLfMfNfOfP",
  "fQfRfSfTfUfVfWfXfYfZaRAISED MC SIGNbMD SIGNbMR SIGNaCIRCLED CCbC WITH OVERLAID BACKSLASH",
  "bHUMAN FIGUREaNEGATIVE SQUARED LATIN CAPITAL LETTER AfBfCfDfEfFfGfHfIfJfKfLfMfNfOfPfQfRfSfTfU",
  "fVfWfXfYfZaCROSSED NEGATIVE SQUARED LATIN CAPITAL LETTER PaNEGATIVE SQUARED ICcPAcSAcABcWC",
  "aSQUARE DJaSQUARED CLbCOOLbFREEbIDbNEWbNGbOKbSOSbUP WITH EXCLAMATION MARKbVSbTHREE D",
  "bSECOND SCREENbTWO KbFOUR KbEIGHT KbFIVE POINT ONEbSEVEN POINT ONEbTWENTY-TWO POINT TWO",
  "bSIXTY PbONE HUNDRED TWENTY PbLATIN SMALL LETTER DbHCbHDRbHI-RESbLOSSLESSbSHVbUHDbVOD",
  "aMASK WORK SYMBOL.1F1E6aREGIONAL INDICATOR SYMBOL LETTER AeBeCeDeEeFeGeHeIeJeKeLeMeNeOePeQeReS",
  "eTeUeVeWeXeYeZaSQUARE HIRAGANA HOKAaSQUARED KATAKANA KOKOcSA.1F210bCJK UNIFIED IDEOGRAPH-624B",
  "dIDEOGRAPH-5B57dIDEOGRAPH-53CCbKATAKANA DEbCJK UNIFIED IDEOGRAPH-4E8CdIDEOGRAPH-591A",
  "dIDEOGRAPH-89E3dIDEOGRAPH-5929dIDEOGRAPH-4EA4dIDEOGRAPH-6620dIDEOGRAPH-7121dIDEOGRAPH-6599",
  "dIDEOGRAPH-524DdIDEOGRAPH-5F8CdIDEOGRAPH-518DdIDEOGRAPH-65B0dIDEOGRAPH-521DdIDEOGRAPH-7D42",
  "dIDEOGRAPH-751FdIDEOGRAPH-8CA9dIDEOGRAPH-58F0dIDEOGRAPH-5439dIDEOGRAPH-6F14dIDEOGRAPH-6295",
  "dIDEOGRAPH-6355dIDEOGRAPH-4E00dIDEOGRAPH-4E09dIDEOGRAPH-904AdIDEOGRAPH-5DE6dIDEOGRAPH-4E2D",
  "dIDEOGRAPH-53F3dIDEOGRAPH-6307dIDEOGRAPH-8D70dIDEOGRAPH-6253dIDEOGRAPH-7981dIDEOGRAPH-7A7A",
  "dIDEOGRAPH-5408dIDEOGRAPH-6E80dIDEOGRAPH-6709dIDEOGRAPH-6708dIDEOGRAPH-7533dIDEOGRAPH-5272",
  "dIDEOGRAPH-55B6dIDEOGRAPH-914D.1F240aTORTOISE SHELL BRACKETED CJK UNIFIED IDEOGRAPH-672C",
  "fIDEOGRAPH-4E09fIDEOGRAPH-4E8CfIDEOGRAPH-5B89fIDEOGRAPH-70B9fIDEOGRAPH-6253fIDEOGRAPH-76D7",
  "fIDEOGRAPH-52DDfIDEOGRAPH-6557.1F250aCIRCLED IDEOGRAPH ADVANTAGEcACCEPT",
  ".1F260aROUNDED SYMBOL FOR FUdLUdSHOUdXIdSHUANGXIdCAI.1F300aCYCLONEaFOGGYaCLOSED UMBRELLA",
  "aNIGHT WITH STARSaSUNRISE OVER MOUNTAINSbaCITYSCAPE AT DUSKaSUNSET OVER BUILDINGSaRAINBOW",
  "aBRIDGE AT NIGHTaWATER WAVEaVOLCANOaMILKY WAYaEARTH GLOBE EUROPE-AFRICAcAMERICAS",
  "cASIA-AUSTRALIAaGLOBE WITH MERIDIANSaNEW MOON SYMBOLaWAXING CRESCENT MOON SYMBOL",
  "aFIRST QUARTER MOON SYMBOLaWAXING GIBBOUS MOON SYMBOLaFULL MOON SYMBOL",
  "aWANING GIBBOUS MOON SYMBOLaLAST QUARTER MOON SYMBOLaWANING CRESCENT MOON SYMBOLaCRESCENT MOON",
  "aNEW MOON WITH FACEaFIRST QUARTER MOON WITH FACEaLAST QUARTER MOON WITH FACE",
  "aFULL MOON WITH FACEaSUN WITH FACEaGLOWING STARaSHOOTING STARaTHERMOMETERaBLACK DROPLET",
  "aWHITE SUNcWITH SMALL CLOUDcBEHIND CLOUDeWITH RAINaCLOUD WITH RAINcSNOWcLIGHTNINGcTORNADOaFOG",
  "aWIND BLOWING FACEaHOT DOGaTACOaBURRITOaCHESTNUTaSEEDLINGaEVERGREEN TREEaDECIDUOUS TREE",
  "aPALM TREEaCACTUSaHOT PEPPERaTULIPaCHERRY BLOSSOMaROSEaHIBISCUSaSUNFLOWERaBLOSSOMaEAR OF MAIZE",
  "cRICEaHERBaFOUR LEAF CLOVERaMAPLE LEAFaFALLEN LEAFaLEAF FLUTTERING IN WINDaMUSHROOMaTOMATO",
  "aAUBERGINEaGRAPESaMELONaWATERMELONaTANGERINEaLEMONaBANANAaPINEAPPLEaRED APPLEaGREEN APPLEaPEAR",
  "aPEACHaCHERRIESaSTRAWBERRYaHAMBURGERaSLICE OF PIZZAaMEAT ON BONEaPOULTRY LEGaRICE CRACKERbBALL",
  "aCOOKED RICEaCURRY AND RICEaSTEAMING BOWLaSPAGHETTIaBREADaFRENCH FRIESaROASTED SWEET POTATO",
  "aDANGOaODENaSUSHIaFRIED SHRIMPaFISH CAKE WITH SWIRL DESIGNaSOFT ICE CREAMaSHAVED ICEaICE CREAM",
  "aDOUGHNUTaCOOKIEaCHOCOLATE BARaCANDYaLOLLIPOPaCUSTARDaHONEY POTaSHORTCAKEaBENTO BOX",
  "aPOT OF FOODaCOOKINGaFORK AND KNIFEaTEACUP WITHOUT HANDLEaSAKE BOTTLE AND CUPaWINE GLASS",
  "aCOCKTAIL GLASSaTROPICAL DRINKaBEER MUGaCLINKING BEER MUGSaBABY BOTTLE",
  "aFORK AND KNIFE WITH PLATEaBOTTLE WITH POPPING CORKaPOPCORNaRIBBONaWRAPPED PRESENT",
  "aBIRTHDAY CAKEaJACK-O-LANTERNaCHRISTMAS TREEaFATHER CHRISTMASaFIREWORKSaFIREWORK SPARKLER",
  "aBALLOONaPARTY POPPERaCONFETTI BALLaTANABATA TREEaCROSSED FLAGSaPINE DECORATIONaJAPANESE DOLLS",
  "aCARP STREAMERaWIND CHIMEaMOON VIEWING CEREMONYaSCHOOL SATCHELaGRADUATION CAP",
  "aHEART WITH TIP ON THE LEFTaBOUQUET OF FLOWERSaMILITARY MEDALaREMINDER RIBBON",
  "aMUSICAL KEYBOARD WITH JACKSaSTUDIO MICROPHONEaLEVEL SLIDERaCONTROL KNOBS",
  "aBEAMED ASCENDING MUSICAL NOTESbDESCENDING MUSICAL NOTESaFILM FRAMESaADMISSION TICKETS",
  "aCAROUSEL HORSEaFERRIS WHEELaROLLER COASTERaFISHING POLE AND FISHaMICROPHONEaMOVIE CAMERA",
  "aCINEMAaHEADPHONEaARTIST PALETTEaTOP HATaCIRCUS TENTaTICKETaCLAPPER BOARDaPERFORMING ARTS",
  "aVIDEO GAMEaDIRECT HITaSLOT MACHINEaBILLIARDSaGAME DIEaBOWLINGaFLOWER PLAYING CARDS",
  "aMUSICAL NOTEaMULTIPLE MUSICAL NOTESaSAXOPHONEaGUITARaMUSICAL KEYBOARDaTRUMPETaVIOLIN",
  "aMUSICAL SCOREaRUNNING SHIRT WITH SASHaTENNIS RACQUET AND BALLaSKI AND SKI BOOT",
  "aBASKETBALL AND HOOPaCHEQUERED FLAGaSNOWBOARDERaRUNNERaSURFERaSPORTS MEDALaTROPHYaHORSE RACING",
  "aAMERICAN FOOTBALLaRUGBY FOOTBALLaSWIMMERaWEIGHT LIFTERaGOLFERaRACING MOTORCYCLEbCAR",
  "aCRICKET BAT AND BALLaVOLLEYBALLaFIELD HOCKEY STICK AND BALLaICE HOCKEY STICK AND PUCK",
  "aTABLE TENNIS PADDLE AND BALLaSNOW CAPPED MOUNTAINaCAMPINGaBEACH WITH UMBRELLA",
  "aBUILDING CONSTRUCTIONaHOUSE BUILDINGSaCITYSCAPEaDERELICT HOUSE BUILDINGaCLASSICAL BUILDING",
  "aDESERTbISLANDaNATIONAL PARKaSTADIUMaHOUSE BUILDINGbWITH GARDENaOFFICE BUILDING",
  "aJAPANESE POST OFFICEaEUROPEAN POST OFFICEaHOSPITALaBANKaAUTOMATED TELLER MACHINEaHOTEL",
  "aLOVE HOTELaCONVENIENCE STOREaSCHOOLaDEPARTMENT STOREaFACTORYaIZAKAYA LANTERNaJAPANESE CASTLE",
  "aEUROPEAN CASTLEaWHITE PENNANTaBLACK PENNANTaWAVING WHITE FLAGbBLACK FLAGaROSETTE",
  "aBLACK ROSETTEaLABELaBADMINTON RACQUET AND SHUTTLECOCKaBOW AND ARROWaAMPHORA",
  "aEMOJI MODIFIER FITZPATRICK TYPE-1-2dTYPE-3dTYPE-4dTYPE-5dTYPE-6aRATaMOUSEaOXaWATER BUFFALO",
  "aCOWaTIGERaLEOPARDaRABBITaCATaDRAGONaCROCODILEaWHALEaSNAILaSNAKEaHORSEaRAMaGOATaSHEEPaMONKEY",
  "aROOSTERaCHICKENaDOGaPIGaBOARaELEPHANTaOCTOPUSaSPIRAL SHELLaBUGaANTaHONEYBEEaLADY BEETLEaFISH",
  "aTROPICAL FISHaBLOWFISHaTURTLEaHATCHING CHICKaBABY CHICKaFRONT-FACING BABY CHICKaBIRDaPENGUIN",
  "aKOALAaPOODLEaDROMEDARY CAMELaBACTRIAN CAMELaDOLPHINaMOUSE FACEaCOW FACEaTIGER FACE",
  "aRABBIT FACEaCAT FACEaDRAGON FACEaSPOUTING WHALEaHORSE FACEaMONKEY FACEaDOG FACEaPIG FACE",
  "aFROG FACEaHAMSTER FACEaWOLF FACEaBEAR FACEaPANDA FACEaPIG NOSEaPAW PRINTSaCHIPMUNKaEYESaEYE",
  "aEARaNOSEaMOUTHaTONGUEaWHITE UP POINTING BACKHAND INDEXbDOWN POINTING BACKHAND INDEX",
  "bLEFT POINTING BACKHAND INDEXbRIGHT POINTING BACKHAND INDEXaFISTED HAND SIGNaWAVING HAND SIGN",
  "aOK HAND SIGNaTHUMBS UP SIGNbDOWN SIGNaCLAPPING HANDS SIGNaOPEN HANDS SIGNaCROWNaWOMANS HAT",
  "aEYEGLASSESaNECKTIEaT-SHIRTaJEANSaDRESSaKIMONOaBIKINIaWOMANS CLOTHESaPURSEaHANDBAGaPOUCH",
  "aMANS SHOEaATHLETIC SHOEaHIGH-HEELED SHOEaWOMANS SANDALbBOOTSaFOOTPRINTSaBUST IN SILHOUETTE",
  "aBUSTS IN SILHOUETTEaBOYaGIRLaMANaWOMANaFAMILYaMAN AND WOMAN HOLDING HANDS",
  "aTWO MEN HOLDING HANDSbWOMEN HOLDING HANDSaPOLICE OFFICERaWOMAN WITH BUNNY EARS",
  "aBRIDE WITH VEILaPERSON WITH BLOND HAIRaMAN WITH GUA PI MAOcTURBANaOLDER MANbWOMANaBABY",
  "aCONSTRUCTION WORKERaPRINCESSaJAPANESE OGREbGOBLINaGHOSTaBABY ANGELaEXTRATERRESTRIAL ALIEN",
  "aALIEN MONSTERaIMPaSKULLaINFORMATION DESK PERSONaGUARDSMANaDANCERaLIPSTICKaNAIL POLISH",
  "aFACE MASSAGEaHAIRCUTaBARBER POLEaSYRINGEaPILLaKISS MARKaLOVE LETTERaRINGaGEM STONEaKISS",
  "aBOUQUETaCOUPLE WITH HEARTaWEDDINGaBEATING HEARTaBROKEN HEARTaTWO HEARTSaSPARKLING HEART",
  "aGROWING HEARTaHEART WITH ARROWaBLUE HEARTaGREEN HEARTaYELLOW HEARTaPURPLE HEART",
  "aHEART WITH RIBBONaREVOLVING HEARTSaHEART DECORATIONaDIAMOND SHAPE WITH A DOT INSIDE",
  "aELECTRIC LIGHT BULBaANGER SYMBOLaBOMBaSLEEPING SYMBOLaCOLLISION SYMBOLaSPLASHING SWEAT SYMBOL",
  "aDROPLETaDASH SYMBOLaPILE OF POOaFLEXED BICEPSaDIZZY SYMBOLaSPEECH BALLOONaTHOUGHT BALLOON",
  "aWHITE FLOWERaHUNDRED POINTS SYMBOLaMONEY BAGaCURRENCY EXCHANGEaHEAVY DOLLAR SIGNaCREDIT CARD",
  "aBANKNOTE WITH YEN SIGNcDOLLAR SIGNcEURO SIGNcPOUND SIGNaMONEY WITH WINGS",
  "aCHART WITH UPWARDS TREND AND YEN SIGNaSEATaPERSONAL COMPUTERaBRIEFCASEaMINIDISCaFLOPPY DISK",
  "aOPTICAL DISCaDVDaFILE FOLDERaOPEN FILE FOLDERaPAGE WITH CURLbFACING UPaCALENDAR",
  "aTEAR-OFF CALENDARaCARD INDEXaCHART WITH UPWARDS TRENDcDOWNWARDS TRENDaBAR CHARTaCLIPBOARD",
  "aPUSHPINaROUND PUSHPINaPAPERCLIPaSTRAIGHT RULERaTRIANGULAR RULERaBOOKMARK TABSaLEDGERaNOTEBOOK",
  "bWITH DECORATIVE COVERaCLOSED BOOKaOPEN BOOKaGREEN BOOKaBLUE BOOKaORANGE BOOKaBOOKSaNAME BADGE",
  "aSCROLLaMEMOaTELEPHONE RECEIVERaPAGERaFAX MACHINEaSATELLITE ANTENNAaPUBLIC ADDRESS LOUDSPEAKER",
  "aCHEERING MEGAPHONEaOUTBOX TRAYaINBOX TRAYaPACKAGEaE-MAIL SYMBOLaINCOMING ENVELOPE",
  "aENVELOPE WITH DOWNWARDS ARROW ABOVEaCLOSED MAILBOX WITH LOWERED FLAGdRAISED FLAG",
  "aOPEN MAILBOX WITH RAISED FLAGdLOWERED FLAGaPOSTBOXaPOSTAL HORNaNEWSPAPERaMOBILE PHONE",
  "cWITH RIGHTWARDS ARROW AT LEFTaVIBRATION MODEaMOBILE PHONE OFFaNO MOBILE PHONES",
  "aANTENNA WITH BARSaCAMERAbWITH FLASHaVIDEO CAMERAaTELEVISIONaRADIOaVIDEOCASSETTE",
  "aFILM PROJECTORaPORTABLE STEREOaPRAYER BEADSaTWISTED RIGHTWARDS ARROWS",
  "aCLOCKWISE RIGHTWARDS AND LEFTWARDS OPEN CIRCLE ARROWShWITH CIRCLED ONE OVERLAY",
  "bDOWNWARDS AND UPWARDS OPEN CIRCLE ARROWS",
  "aANTICLOCKWISE DOWNWARDS AND UPWARDS OPEN CIRCLE ARROWSaLOW BRIGHTNESS SYMBOL",
  "aHIGH BRIGHTNESS SYMBOLaSPEAKER WITH CANCELLATION STROKEbbWITH ONE SOUND WAVE",
  "cTHREE SOUND WAVESaBATTERYaELECTRIC PLUGaLEFT-POINTING MAGNIFYING GLASS",
  "aRIGHT-POINTING MAGNIFYING GLASSaLOCK WITH INK PENaCLOSED LOCK WITH KEYaKEYaLOCKaOPEN LOCK",
  "aBELLbWITH CANCELLATION STROKEaBOOKMARKaLINK SYMBOLaRADIO BUTTON",
  "aBACK WITH LEFTWARDS ARROW ABOVEaEND WITH LEFTWARDS ARROW ABOVE",
  "aON WITH EXCLAMATION MARK WITH LEFT RIGHT ARROW ABOVEaSOON WITH RIGHTWARDS ARROW ABOVE",
  "aTOP WITH UPWARDS ARROW ABOVEaNO ONE UNDER EIGHTEEN SYMBOLaKEYCAP TEN",
  "aINPUT SYMBOL FOR LATIN CAPITAL LETTERSeSMALL LETTERSdNUMBERSdSYMBOLSdLATIN LETTERSaFIRE",
  "aELECTRIC TORCHaWRENCHaHAMMERaNUT AND BOLTaHOCHOaPISTOLaMICROSCOPEaTELESCOPEaCRYSTAL BALL",
  "aSIX POINTED STAR WITH MIDDLE DOTaJAPANESE SYMBOL FOR BEGINNERaTRIDENT EMBLEM",
  "aBLACK SQUARE BUTTONaWHITE SQUARE BUTTONaLARGE RED CIRCLEbBLUE CIRCLEbORANGE DIAMOND",
  "bBLUE DIAMONDaSMALL ORANGE DIAMONDbBLUE DIAMONDaUP-POINTING RED TRIANGLE",
  "aDOWN-POINTING RED TRIANGLEaUP-POINTING SMALL RED TRIANGLEaDOWN-POINTING SMALL RED TRIANGLE",
  "aLOWER RIGHT SHADOWED WHITE CIRCLEaUPPER RIGHT SHADOWED WHITE CIRCLEaCIRCLED CROSS POMMEE",
  "aCROSS POMMEE WITH HALF-CIRCLE BELOWcaNOTCHED LEFT SEMICIRCLE WITH THREE DOTS",
  "bRIGHT SEMICIRCLE WITH THREE DOTSaSYMBOL FOR MARKS CHAPTERaWHITE LATIN CROSSaHEAVY LATIN CROSS",
  "aCELTIC CROSSaOM SYMBOLaDOVE OF PEACEaKAABAaMOSQUEaSYNAGOGUEaMENORAH WITH NINE BRANCHES",
  "aBOWL OF HYGIEIAaCLOCK FACE ONE OCLOCKcTWO OCLOCKcTHREE OCLOCKcFOUR OCLOCKcFIVE OCLOCK",
  "cSIX OCLOCKcSEVEN OCLOCKcEIGHT OCLOCKcNINE OCLOCKcTEN OCLOCKcELEVEN OCLOCKcTWELVE OCLOCK",
  "cONE-THIRTYcTWO-THIRTYcTHREE-THIRTYcFOUR-THIRTYcFIVE-THIRTYcSIX-THIRTYcSEVEN-THIRTY",
  "cEIGHT-THIRTYcNINE-THIRTYcTEN-THIRTYcELEVEN-THIRTYcTWELVE-THIRTYaRIGHT SPEAKER",
  "cWITH ONE SOUND WAVEdTHREE SOUND WAVESaBULLHORNbWITH SOUND WAVESaRINGING BELLaBOOKaCANDLE",
  "aMANTELPIECE CLOCKaBLACK SKULL AND CROSSBONESaNO PIRACYaHOLEaMAN IN BUSINESS SUIT LEVITATING",
  "aSLEUTH OR SPYaDARK SUNGLASSESaSPIDERbWEBaJOYSTICKaMAN DANCINGaLEFT HAND TELEPHONE RECEIVER",
  "aTELEPHONE RECEIVER WITH PAGEaRIGHT HAND TELEPHONE RECEIVERaWHITE TOUCHTONE TELEPHONE",
  "aBLACK TOUCHTONE TELEPHONEaTELEPHONE ON TOP OF MODEMaCLAMSHELL MOBILE PHONEaBACK OF ENVELOPE",
  "aSTAMPED ENVELOPEaENVELOPE WITH LIGHTNINGaFLYING ENVELOPEaPEN OVER STAMPED ENVELOPE",
  "aLINKED PAPERCLIPSaBLACK PUSHPINaLOWER LEFT PENCILcBALLPOINT PENcFOUNTAIN PENcPAINTBRUSH",
  "cCRAYONaLEFT WRITING HANDaTURNED OK HAND SIGNaRAISED HAND WITH FINGERS SPLAYED",
  "aREVERSED RAISED HAND WITH FINGERS SPLAYEDbTHUMBS UP SIGNcDOWN SIGNbVICTORY HAND",
  "bHAND WITH MIDDLE FINGER EXTENDEDaRAISED HAND WITH PART BETWEEN MIDDLE AND RING FINGERS",
  "aWHITE DOWN POINTING LEFT HAND INDEXaSIDEWAYS WHITE LEFT POINTING INDEXcRIGHT POINTING INDEX",
  "bBLACK LEFT POINTING INDEXcRIGHT POINTING INDEXaBLACK LEFT POINTING BACKHAND INDEX",
  "bRIGHT POINTING BACKHAND INDEXaSIDEWAYS WHITE UP POINTING INDEXcDOWN POINTING INDEX",
  "bBLACK UP POINTING INDEXcDOWN POINTING INDEXaBLACK UP POINTING BACKHAND INDEX",
  "bDOWN POINTING BACKHAND INDEXbHEARTaDESKTOP COMPUTERaKEYBOARD AND MOUSE",
  "aTHREE NETWORKED COMPUTERSaPRINTERaPOCKET CALCULATORaBLACK HARD SHELL FLOPPY DISK",
  "aWHITE HARD SHELL FLOPPY DISKaSOFT SHELL FLOPPY DISKaTAPE CARTRIDGEaWIRED KEYBOARD",
  "aONE BUTTON MOUSEaTWO BUTTON MOUSEaTHREE BUTTON MOUSEaTRACKBALLaOLD PERSONAL COMPUTER",
  "aHARD DISKaSCREENaPRINTER ICONaFAX ICONaOPTICAL DISC ICONaDOCUMENT WITH TEXTdAND PICTURE",
  "cPICTUREaFRAME WITH PICTUREcTILEScAN XaBLACK FOLDERaFOLDERaOPEN FOLDERaCARD INDEX DIVIDERS",
  "bFILE BOXaFILE CABINETaEMPTY NOTEcPAGEcPADaNOTEbPAGEbPADaEMPTY DOCUMENTbPAGEbPAGESaDOCUMENT",
  "aPAGEaPAGESaWASTEBASKETaSPIRAL NOTE PADbCALENDAR PADaDESKTOP WINDOWaMINIMIZEaMAXIMIZEaOVERLAP",
  "aCLOCKWISE RIGHT AND LEFT SEMICIRCLE ARROWSaCANCELLATION XaINCREASE FONT SIZE SYMBOL",
  "aDECREASE FONT SIZE SYMBOLaCOMPRESSIONaOLD KEYaROLLED-UP NEWSPAPERaPAGE WITH CIRCLED TEXT",
  "aSTOCK CHARTaDAGGER KNIFEaLIPSaSPEAKING HEAD IN SILHOUETTEaTHREE RAYS ABOVEcBELOWcLEFTcRIGHT",
  "aLEFT SPEECH BUBBLEaRIGHT SPEECH BUBBLEaTWO SPEECH BUBBLESaTHREE SPEECH BUBBLES",
  "aLEFT THOUGHT BUBBLEaRIGHT THOUGHT BUBBLEaLEFT ANGER BUBBLEaRIGHT ANGER BUBBLEaMOOD BUBBLE",
  "aLIGHTNING MOOD BUBBLEcaBALLOT BOX WITH BALLOTbSCRIPT XbBOX WITH SCRIPT XbBOLD SCRIPT X",
  "bBOX WITH BOLD SCRIPT XaLIGHT CHECK MARKaBALLOT BOX WITH BOLD CHECKaWORLD MAPaMOUNT FUJI",
  "aTOKYO TOWERaSTATUE OF LIBERTYaSILHOUETTE OF JAPANaMOYAIaGRINNING FACEcWITH SMILING EYES",
  "aFACE WITH TEARS OF JOYaSMILING FACE WITH OPEN MOUTHfAND SMILING EYESgCOLD SWEAT",
  "gTIGHTLY-CLOSED EYESdHALOdHORNSaWINKING FACEaSMILING FACE WITH SMILING EYES",
  "aFACE SAVOURING DELICIOUS FOODaRELIEVED FACEaSMILING FACE WITH HEART-SHAPED EYESdSUNGLASSES",
  "aSMIRKING FACEaNEUTRAL FACEaEXPRESSIONLESS FACEaUNAMUSED FACEaFACE WITH COLD SWEAT",
  "aPENSIVE FACEaCONFUSED FACEaCONFOUNDED FACEaKISSING FACEaFACE THROWING A KISS",
  "aKISSING FACE WITH SMILING EYESdCLOSED EYESaFACE WITH STUCK-OUT TONGUEeAND WINKING EYE",
  "fTIGHTLY-CLOSED EYESaDISAPPOINTED FACEaWORRIED FACEaANGRY FACEaPOUTING FACEaCRYING FACE",
  "aPERSEVERING FACEaFACE WITH LOOK OF TRIUMPHaDISAPPOINTED BUT RELIEVED FACE",
  "aFROWNING FACE WITH OPEN MOUTHaANGUISHED FACEaFEARFUL FACEaWEARY FACEaSLEEPY FACEaTIRED FACE",
  "aGRIMACING FACEaLOUDLY CRYING FACEaFACE WITH OPEN MOUTHaHUSHED FACE",
  "aFACE WITH OPEN MOUTH AND COLD SWEATbSCREAMING IN FEARaASTONISHED FACEaFLUSHED FACE",
  "aSLEEPING FACEaDIZZY FACEaFACE WITHOUT MOUTHbWITH MEDICAL MASK",
  "aGRINNING CAT FACE WITH SMILING EYESaCAT FACE WITH TEARS OF JOY",
  "aSMILING CAT FACE WITH OPEN MOUTHeHEART-SHAPED EYESaCAT FACE WITH WRY SMILE",
  "aKISSING CAT FACE WITH CLOSED EYESaPOUTING CAT FACEaCRYING CAT FACEaWEARY CAT FACE",
  "aSLIGHTLY FROWNING FACEbSMILING FACEaUPSIDE-DOWN FACEaFACE WITH ROLLING EYEScNO GOOD GESTURE",
  "cOK GESTUREaPERSON BOWING DEEPLYaSEE-NO-EVIL MONKEYaHEAR-NO-EVIL MONKEYaSPEAK-NO-EVIL MONKEY",
  "aHAPPY PERSON RAISING ONE HANDaPERSON RAISING BOTH HANDS IN CELEBRATIONbFROWNING",
  "bWITH POUTING FACEcFOLDED HANDSaNORTH WEST POINTING LEAFaSOUTH WEST POINTING LEAF",
  "aNORTH EAST POINTING LEAFaSOUTH EAST POINTING LEAFaTURNED NORTH WEST POINTING LEAF",
  "bSOUTH WEST POINTING LEAFbNORTH EAST POINTING LEAFbSOUTH EAST POINTING LEAF",
  "aNORTH WEST POINTING VINE LEAFaSOUTH WEST POINTING VINE LEAFaNORTH EAST POINTING VINE LEAF",
  "aSOUTH EAST POINTING VINE LEAFaHEAVY NORTH WEST POINTING VINE LEAF",
  "bSOUTH WEST POINTING VINE LEAFbNORTH EAST POINTING VINE LEAFbSOUTH EAST POINTING VINE LEAF",
  "aNORTH WEST POINTING BUDaSOUTH WEST POINTING BUDaNORTH EAST POINTING BUD",
  "aSOUTH EAST POINTING BUDaHEAVY NORTH WEST POINTING BUDbSOUTH WEST POINTING BUD",
  "bNORTH EAST POINTING BUDbSOUTH EAST POINTING BUDaHOLLOW QUILT SQUARE ORNAMENTeIN BLACK SQUARE",
  "aSOLID QUILT SQUARE ORNAMENTeIN BLACK SQUAREaLEFTWARDS ROCKETaUPWARDS ROCKETaRIGHTWARDS ROCKET",
  "aDOWNWARDS ROCKETaSCRIPT LIGATURE ET ORNAMENTaHEAVY SCRIPT LIGATURE ET ORNAMENT",
  "aLIGATURE OPEN ET ORNAMENTaHEAVY LIGATURE OPEN ET ORNAMENTbAMPERSAND ORNAMENT",
  "aSWASH AMPERSAND ORNAMENTaSANS-SERIF HEAVY DOUBLE TURNED COMMA QUOTATION MARK ORNAMENT",
  "dCOMMA QUOTATION MARK ORNAMENTcLOW DOUBLE COMMA QUOTATION MARK ORNAMENT",
  "aHEAVY INTERROBANG ORNAMENTaSANS-SERIF INTERROBANG ORNAMENT",
  "aHEAVY SANS-SERIF INTERROBANG ORNAMENTaVERY HEAVY SOLIDUScREVERSE SOLIDUSaCHECKER BOARD",
  "aREVERSE CHECKER BOARDaROCKETaHELICOPTERaSTEAM LOCOMOTIVEaRAILWAY CARaHIGH-SPEED TRAIN",
  "cWITH BULLET NOSEaTRAINaMETROaLIGHT RAILaSTATIONaTRAMbCARaBUSaONCOMING BUSaTROLLEYBUSaBUS STOP",
  "aMINIBUSaAMBULANCEaFIRE ENGINEaPOLICE CARaONCOMING POLICE CARaTAXIaONCOMING TAXIaAUTOMOBILE",
  "aONCOMING AUTOMOBILEaRECREATIONAL VEHICLEaDELIVERY TRUCKaARTICULATED LORRYaTRACTORaMONORAIL",
  "aMOUNTAIN RAILWAYaSUSPENSION RAILWAYaMOUNTAIN CABLEWAYaAERIAL TRAMWAYaSHIPaROWBOATaSPEEDBOAT",
  "aHORIZONTAL TRAFFIC LIGHTaVERTICAL TRAFFIC LIGHTaCONSTRUCTION SIGNaPOLICE CARS REVOLVING LIGHT",
  "aTRIANGULAR FLAG ON POSTaDOORaNO ENTRY SIGNaSMOKING SYMBOLaNO SMOKING SYMBOL",
  "aPUT LITTER IN ITS PLACE SYMBOLaDO NOT LITTER SYMBOLaPOTABLE WATER SYMBOL",
  "aNON-POTABLE WATER SYMBOLaBICYCLEaNO BICYCLESaBICYCLISTaMOUNTAIN BICYCLISTaPEDESTRIAN",
  "aNO PEDESTRIANSaCHILDREN CROSSINGaMENS SYMBOLaWOMENS SYMBOLaRESTROOMaBABY SYMBOLaTOILET",
  "aWATER CLOSETaSHOWERaBATHaBATHTUBaPASSPORT CONTROLaCUSTOMSaBAGGAGE CLAIMaLEFT LUGGAGE",
  "aTRIANGLE WITH ROUNDED CORNERSaPROHIBITED SIGNaCIRCLED INFORMATION SOURCEaBOYS SYMBOL",
  "aGIRLS SYMBOLaCOUCH AND LAMPaSLEEPING ACCOMMODATIONaSHOPPING BAGSaBELLHOP BELLaBED",
  "aPLACE OF WORSHIPaOCTAGONAL SIGNaSHOPPING TROLLEYaSTUPAaPAGODAaHINDU TEMPLEaHUTaELEVATOR",
  ".1F6DDaPLAYGROUND SLIDEaWHEELaRING BUOYaHAMMER AND WRENCHaSHIELDaOIL DRUMaMOTORWAY",
  "aRAILWAY TRACKaMOTOR BOATaUP-POINTING MILITARY AIRPLANEbAIRPLANEbSMALL AIRPLANEaSMALL AIRPLANE",
  "aNORTHEAST-POINTING AIRPLANEaAIRPLANE DEPARTUREbARRIVING.1F6F0aSATELLITEaONCOMING FIRE ENGINE",
  "aDIESEL LOCOMOTIVEaPASSENGER SHIPaSCOOTERaMOTOR SCOOTERaCANOEaSLEDaFLYING SAUCERaSKATEBOARD",
  "aAUTO RICKSHAWaPICKUP TRUCKaROLLER SKATE.1F700aALCHEMICAL SYMBOL FOR QUINTESSENCEdAIRdFIRE",
  "dEARTHdWATERdAQUAFORTISdAQUA REGIAeREGIA-2eVITAEeVITAE-2dVINEGARdVINEGAR-2dVINEGAR-3dSULFUR",
  "dPHILOSOPHERS SULFURdBLACK SULFURdMERCURY SUBLIMATEeSUBLIMATE-2eSUBLIMATE-3dCINNABARdSALT",
  "dNITREdVITRIOLdVITRIOL-2dROCK SALTeSALT-2dGOLDdSILVERdIRON OREeORE-2dCROCUS OF IRON",
  "dREGULUS OF IRONdCOPPER OREdIRON-COPPER OREdSUBLIMATE OF COPPERdCROCUS OF COPPERfCOPPER-2",
  "dCOPPER ANTIMONIATEdSALT OF COPPER ANTIMONIATEdSUBLIMATE OF SALT OF COPPERdVERDIGRISdTIN ORE",
  "dLEAD OREdANTIMONY OREdSUBLIMATE OF ANTIMONYdSALT OF ANTIMONYdSUBLIMATE OF SALT OF ANTIMONY",
  "dVINEGAR OF ANTIMONYdREGULUS OF ANTIMONYfANTIMONY-2edREGULUS-2dREGULUS-3dREGULUS-4dALKALI",
  "dALKALI-2dMARCASITEdSAL-AMMONIACdARSENICdREALGARdREALGAR-2dAURIPIGMENTdBISMUTH OREdTARTAR",
  "dTARTAR-2dQUICK LIMEdBORAXdBORAX-2dBORAX-3dALUMdOILdSPIRITdTINCTUREdGUMdWAXdPOWDERdCALXdTUTTY",
  "dCAPUT MORTUUMdSCEPTER OF JOVEdCADUCEUSdTRIDENTdSTARRED TRIDENTdLODESTONEdSOAPdURINE",
  "dHORSE DUNGdASHESdPOT ASHESdBRICKdPOWDERED BRICKdAMALGAMdSTRATUM SUPER STRATUMfSTRATUM-2",
  "dSUBLIMATIONdPRECIPITATEdDISTILLdDISSOLVEdDISSOLVE-2dPURIFYdPUTREFACTIONdCRUCIBLEdCRUCIBLE-2",
  "dCRUCIBLE-3dCRUCIBLE-4dCRUCIBLE-5dALEMBICdBATH OF MARYfVAPOURSdRETORTdHOURdNIGHTdDAY-NIGHT",
  "dMONTHdHALF DRAMeOUNCE.1F780aBLACK LEFT-POINTING ISOSCELES RIGHT TRIANGLE",
  "bUP-POINTING ISOSCELES RIGHT TRIANGLEbRIGHT-POINTING ISOSCELES RIGHT TRIANGLE",
  "bDOWN-POINTING ISOSCELES RIGHT TRIANGLEbSLIGHTLY SMALL CIRCLEaMEDIUM BOLD WHITE CIRCLE",
  "aBOLD WHITE CIRCLEaHEAVY WHITE CIRCLEaVERY HEAVY WHITE CIRCLEaEXTREMELY HEAVY WHITE CIRCLE",
  "aWHITE CIRCLE CONTAINING BLACK SMALL CIRCLEaROUND TARGETaBLACK TINY SQUARE",
  "bSLIGHTLY SMALL SQUAREaLIGHT WHITE SQUAREaMEDIUM WHITE SQUAREaBOLD WHITE SQUARE",
  "aHEAVY WHITE SQUAREaVERY HEAVY WHITE SQUAREaEXTREMELY HEAVY WHITE SQUARE",
  "aWHITE SQUARE CONTAINING BLACK VERY SMALL SQUAREeMEDIUM SQUAREaSQUARE TARGET",
  "aBLACK TINY DIAMONDbVERY SMALL DIAMONDbMEDIUM SMALL DIAMOND",
  "aWHITE DIAMOND CONTAINING BLACK VERY SMALL DIAMONDeMEDIUM DIAMONDaDIAMOND TARGET",
  "aBLACK TINY LOZENGEbVERY SMALL LOZENGEbMEDIUM SMALL LOZENGE",
  "aWHITE LOZENGE CONTAINING BLACK SMALL LOZENGEaTHIN GREEK CROSSaLIGHT GREEK CROSS",
  "aMEDIUM GREEK CROSSaBOLD GREEK CROSSaVERY BOLD GREEK CROSSbHEAVY GREEK CROSS",
  "aEXTREMELY HEAVY GREEK CROSSaTHIN SALTIREaLIGHT SALTIREaMEDIUM SALTIREaBOLD SALTIRE",
  "aHEAVY SALTIREaVERY HEAVY SALTIREaEXTREMELY HEAVY SALTIREaLIGHT FIVE SPOKED ASTERISK",
  "aMEDIUM FIVE SPOKED ASTERISKaBOLD FIVE SPOKED ASTERISKaHEAVY FIVE SPOKED ASTERISK",
  "aVERY HEAVY FIVE SPOKED ASTERISKaEXTREMELY HEAVY FIVE SPOKED ASTERISK",
  "aLIGHT SIX SPOKED ASTERISKaMEDIUM SIX SPOKED ASTERISKaBOLD SIX SPOKED ASTERISK",
  "aHEAVY SIX SPOKED ASTERISKaVERY HEAVY SIX SPOKED ASTERISKaEXTREMELY HEAVY SIX SPOKED ASTERISK",
  "aLIGHT EIGHT SPOKED ASTERISKaMEDIUM EIGHT SPOKED ASTERISKaBOLD EIGHT SPOKED ASTERISK",
  "aHEAVY EIGHT SPOKED ASTERISKaVERY HEAVY EIGHT SPOKED ASTERISKaLIGHT THREE POINTED BLACK STAR",
  "aMEDIUM THREE POINTED BLACK STARaTHREE POINTED BLACK STARaMEDIUM THREE POINTED PINWHEEL STAR",
  "aLIGHT FOUR POINTED BLACK STARaMEDIUM FOUR POINTED BLACK STARaFOUR POINTED BLACK STAR",
  "aMEDIUM FOUR POINTED PINWHEEL STARaREVERSE LIGHT FOUR POINTED PINWHEEL STAR",
  "aLIGHT FIVE POINTED BLACK STARaHEAVY FIVE POINTED BLACK STARaMEDIUM SIX POINTED BLACK STAR",
  "aHEAVY SIX POINTED BLACK STARaSIX POINTED PINWHEEL STARaMEDIUM EIGHT POINTED BLACK STAR",
  "aHEAVY EIGHT POINTED BLACK STARaVERY HEAVY EIGHT POINTED BLACK STAR",
  "aHEAVY EIGHT POINTED PINWHEEL STARaLIGHT TWELVE POINTED BLACK STAR",
  "aHEAVY TWELVE POINTED BLACK STARdPINWHEEL STARaCIRCLED TRIANGLEaNEGATIVE CIRCLED TRIANGLE",
  "aCIRCLED SQUAREaNEGATIVE CIRCLED SQUARE.1F7E0aLARGE ORANGE CIRCLEbYELLOW CIRCLEbGREEN CIRCLE",
  "bPURPLE CIRCLEbBROWN CIRCLEbRED SQUAREbBLUE SQUAREbORANGE SQUAREbYELLOW SQUAREbGREEN SQUARE",
  "bPURPLE SQUAREbBROWN SQUARE.1F7F0aHEAVY EQUALS SIGN",
  ".1F800aLEFTWARDS ARROW WITH SMALL TRIANGLE ARROWHEAD",
  "aUPWARDS ARROW WITH SMALL TRIANGLE ARROWHEADaRIGHTWARDS ARROW WITH SMALL TRIANGLE ARROWHEAD",
  "aDOWNWARDS ARROW WITH SMALL TRIANGLE ARROWHEADaLEFTWARDS ARROW WITH MEDIUM TRIANGLE ARROWHEAD",
  "aUPWARDS ARROW WITH MEDIUM TRIANGLE ARROWHEADaRIGHTWARDS ARROW WITH MEDIUM TRIANGLE ARROWHEAD",
  "aDOWNWARDS ARROW WITH MEDIUM TRIANGLE ARROWHEADaLEFTWARDS ARROW WITH LARGE TRIANGLE ARROWHEAD",
  "aUPWARDS ARROW WITH LARGE TRIANGLE ARROWHEADaRIGHTWARDS ARROW WITH LARGE TRIANGLE ARROWHEAD",
  "aDOWNWARDS ARROW WITH LARGE TRIANGLE ARROWHEAD",
  ".1F810aLEFTWARDS ARROW WITH SMALL EQUILATERAL ARROWHEAD",
  "aUPWARDS ARROW WITH SMALL EQUILATERAL ARROWHEAD",
  "aRIGHTWARDS ARROW WITH SMALL EQUILATERAL ARROWHEAD",
  "aDOWNWARDS ARROW WITH SMALL EQUILATERAL ARROWHEADaLEFTWARDS ARROW WITH EQUILATERAL ARROWHEAD",
  "aUPWARDS ARROW WITH EQUILATERAL ARROWHEADaRIGHTWARDS ARROW WITH EQUILATERAL ARROWHEAD",
  "aDOWNWARDS ARROW WITH EQUILATERAL ARROWHEADaHEAVY LEFTWARDS ARROW WITH EQUILATERAL ARROWHEAD",
  "bUPWARDS ARROW WITH EQUILATERAL ARROWHEADbRIGHTWARDS ARROW WITH EQUILATERAL ARROWHEAD",
  "bDOWNWARDS ARROW WITH EQUILATERAL ARROWHEADbLEFTWARDS ARROW WITH LARGE EQUILATERAL ARROWHEAD",
  "bUPWARDS ARROW WITH LARGE EQUILATERAL ARROWHEAD",
  "bRIGHTWARDS ARROW WITH LARGE EQUILATERAL ARROWHEAD",
  "bDOWNWARDS ARROW WITH LARGE EQUILATERAL ARROWHEAD",
  "aLEFTWARDS TRIANGLE-HEADED ARROW WITH NARROW SHAFT",
  "aUPWARDS TRIANGLE-HEADED ARROW WITH NARROW SHAFT",
  "aRIGHTWARDS TRIANGLE-HEADED ARROW WITH NARROW SHAFT",
  "aDOWNWARDS TRIANGLE-HEADED ARROW WITH NARROW SHAFT",
  "aLEFTWARDS TRIANGLE-HEADED ARROW WITH MEDIUM SHAFT",
  "aUPWARDS TRIANGLE-HEADED ARROW WITH MEDIUM SHAFT",
  "aRIGHTWARDS TRIANGLE-HEADED ARROW WITH MEDIUM SHAFT",
  "aDOWNWARDS TRIANGLE-HEADED ARROW WITH MEDIUM SHAFT",
  "aLEFTWARDS TRIANGLE-HEADED ARROW WITH BOLD SHAFTaUPWARDS TRIANGLE-HEADED ARROW WITH BOLD SHAFT",
  "aRIGHTWARDS TRIANGLE-HEADED ARROW WITH BOLD SHAFT",
  "aDOWNWARDS TRIANGLE-HEADED ARROW WITH BOLD SHAFT",
  "aLEFTWARDS TRIANGLE-HEADED ARROW WITH HEAVY SHAFT",
  "aUPWARDS TRIANGLE-HEADED ARROW WITH HEAVY SHAFT",
  "aRIGHTWARDS TRIANGLE-HEADED ARROW WITH HEAVY SHAFT",
  "aDOWNWARDS TRIANGLE-HEADED ARROW WITH HEAVY SHAFT",
  "aLEFTWARDS TRIANGLE-HEADED ARROW WITH VERY HEAVY SHAFT",
  "aUPWARDS TRIANGLE-HEADED ARROW WITH VERY HEAVY SHAFT",
  "aRIGHTWARDS TRIANGLE-HEADED ARROW WITH VERY HEAVY SHAFT",
  "aDOWNWARDS TRIANGLE-HEADED ARROW WITH VERY HEAVY SHAFTaLEFTWARDS FINGER-POST ARROW",
  "aUPWARDS FINGER-POST ARROWaRIGHTWARDS FINGER-POST ARROWaDOWNWARDS FINGER-POST ARROW",
  "aLEFTWARDS SQUARED ARROWaUPWARDS SQUARED ARROWaRIGHTWARDS SQUARED ARROW",
  "aDOWNWARDS SQUARED ARROWaLEFTWARDS COMPRESSED ARROWaUPWARDS COMPRESSED ARROW",
  "aRIGHTWARDS COMPRESSED ARROWaDOWNWARDS COMPRESSED ARROWaLEFTWARDS HEAVY COMPRESSED ARROW",
  "aUPWARDS HEAVY COMPRESSED ARROWaRIGHTWARDS HEAVY COMPRESSED ARROW",
  "aDOWNWARDS HEAVY COMPRESSED ARROWaLEFTWARDS HEAVY ARROWaUPWARDS HEAVY ARROW",
  "aRIGHTWARDS HEAVY ARROWaDOWNWARDS HEAVY ARROW.1F850aLEFTWARDS SANS-SERIF ARROW",
  "aUPWARDS SANS-SERIF ARROWaRIGHTWARDS SANS-SERIF ARROWaDOWNWARDS SANS-SERIF ARROW",
  "aNORTH WEST SANS-SERIF ARROWbEAST SANS-SERIF ARROWaSOUTH EAST SANS-SERIF ARROW",
  "bWEST SANS-SERIF ARROWaLEFT RIGHT SANS-SERIF ARROWaUP DOWN SANS-SERIF ARROW",
  ".1F860aWIDE-HEADED LEFTWARDS LIGHT BARB ARROWbUPWARDS LIGHT BARB ARROW",
  "bRIGHTWARDS LIGHT BARB ARROWbDOWNWARDS LIGHT BARB ARROWbNORTH WEST LIGHT BARB ARROW",
  "cEAST LIGHT BARB ARROWbSOUTH EAST LIGHT BARB ARROWcWEST LIGHT BARB ARROWbLEFTWARDS BARB ARROW",
  "bUPWARDS BARB ARROWbRIGHTWARDS BARB ARROWbDOWNWARDS BARB ARROWbNORTH WEST BARB ARROW",
  "cEAST BARB ARROWbSOUTH EAST BARB ARROWcWEST BARB ARROWbLEFTWARDS MEDIUM BARB ARROW",
  "bUPWARDS MEDIUM BARB ARROWbRIGHTWARDS MEDIUM BARB ARROWbDOWNWARDS MEDIUM BARB ARROW",
  "bNORTH WEST MEDIUM BARB ARROWcEAST MEDIUM BARB ARROWbSOUTH EAST MEDIUM BARB ARROW",
  "cWEST MEDIUM BARB ARROWbLEFTWARDS HEAVY BARB ARROWbUPWARDS HEAVY BARB ARROW",
  "bRIGHTWARDS HEAVY BARB ARROWbDOWNWARDS HEAVY BARB ARROWbNORTH WEST HEAVY BARB ARROW",
  "cEAST HEAVY BARB ARROWbSOUTH EAST HEAVY BARB ARROWcWEST HEAVY BARB ARROW",
  "bLEFTWARDS VERY HEAVY BARB ARROWbUPWARDS VERY HEAVY BARB ARROW",
  "bRIGHTWARDS VERY HEAVY BARB ARROWbDOWNWARDS VERY HEAVY BARB ARROW",
  "bNORTH WEST VERY HEAVY BARB ARROWcEAST VERY HEAVY BARB ARROWbSOUTH EAST VERY HEAVY BARB ARROW",
  "cWEST VERY HEAVY BARB ARROW.1F890aLEFTWARDS TRIANGLE ARROWHEADaUPWARDS TRIANGLE ARROWHEAD",
  "aRIGHTWARDS TRIANGLE ARROWHEADaDOWNWARDS TRIANGLE ARROWHEAD",
  "aLEFTWARDS WHITE ARROW WITHIN TRIANGLE ARROWHEADaUPWARDS WHITE ARROW WITHIN TRIANGLE ARROWHEAD",
  "aRIGHTWARDS WHITE ARROW WITHIN TRIANGLE ARROWHEAD",
  "aDOWNWARDS WHITE ARROW WITHIN TRIANGLE ARROWHEADaLEFTWARDS ARROW WITH NOTCHED TAIL",
  "aUPWARDS ARROW WITH NOTCHED TAILaRIGHTWARDS ARROW WITH NOTCHED TAIL",
  "aDOWNWARDS ARROW WITH NOTCHED TAILaHEAVY ARROW SHAFT WIDTH ONEeTWO THIRDSeONE HALFfTHIRD",
  "aLEFTWARDS BOTTOM-SHADED WHITE ARROWaRIGHTWARDS BOTTOM SHADED WHITE ARROW",
  "aLEFTWARDS TOP SHADED WHITE ARROWaRIGHTWARDS TOP SHADED WHITE ARROW",
  "aLEFTWARDS LEFT-SHADED WHITE ARROWaRIGHTWARDS RIGHT-SHADED WHITE ARROW",
  "aLEFTWARDS RIGHT-SHADED WHITE ARROWaRIGHTWARDS LEFT-SHADED WHITE ARROW",
  "aLEFTWARDS BACK-TILTED SHADOWED WHITE ARROWaRIGHTWARDS BACK-TILTED SHADOWED WHITE ARROW",
  "aLEFTWARDS FRONT-TILTED SHADOWED WHITE ARROWaRIGHTWARDS FRONT-TILTED SHADOWED WHITE ARROW",
  "aWHITE ARROW SHAFT WIDTH ONEeTWO THIRDS.1F8B0aARROW POINTING UPWARDS THEN NORTH WEST",
  "cRIGHTWARDS THEN CURVING SOUTH WEST.1F900aCIRCLED CROSS FORMEE WITH FOUR DOTSeTWO DOTSd",
  "aLEFT HALF CIRCLE WITH FOUR DOTSeTHREE DOTSeTWO DOTSeDOTdaDOWNWARD FACING HOOKcNOTCHED HOOK",
  "cHOOK WITH DOTcNOTCHED HOOK WITH DOTaPINCHED FINGERSaWHITE HEARTaBROWN HEARTaPINCHING HAND",
  "aZIPPER-MOUTH FACEaMONEY-MOUTH FACEaFACE WITH THERMOMETERaNERD FACEaTHINKING FACE",
  "aFACE WITH HEAD-BANDAGEaROBOT FACEaHUGGING FACEaSIGN OF THE HORNSaCALL ME HAND",
  "aRAISED BACK OF HANDaLEFT-FACING FISTaRIGHT-FACING FISTaHANDSHAKE",
  "aHAND WITH INDEX AND MIDDLE FINGERS CROSSEDaI LOVE YOU HAND SIGNaFACE WITH COWBOY HAT",
  "aCLOWN FACEaNAUSEATED FACEaROLLING ON THE FLOOR LAUGHINGaDROOLING FACEaLYING FACEaFACE PALM",
  "aSNEEZING FACEaFACE WITH ONE EYEBROW RAISEDaGRINNING FACE WITH STAR EYES",
  "dONE LARGE AND ONE SMALL EYEaFACE WITH FINGER COVERING CLOSED LIPS",
  "aSERIOUS FACE WITH SYMBOLS COVERING MOUTH",
  "aSMILING FACE WITH SMILING EYES AND HAND COVERING MOUTHaFACE WITH OPEN MOUTH VOMITING",
  "aSHOCKED FACE WITH EXPLODING HEADaPREGNANT WOMANaBREAST-FEEDINGaPALMS UP TOGETHERaSELFIE",
  "aPRINCEaMAN IN TUXEDOaMOTHER CHRISTMASaSHRUGaPERSON DOING CARTWHEELaJUGGLINGaFENCER",
  "aMODERN PENTATHLONaWRESTLERSaWATER POLOaHANDBALLaDIVING MASKaWILTED FLOWER",
  "aDRUM WITH DRUMSTICKSaCLINKING GLASSESaTUMBLER GLASSaSPOONaGOAL NETaRIFLEaFIRST PLACE MEDAL",
  "aSECOND PLACE MEDALaTHIRD PLACE MEDALaBOXING GLOVEaMARTIAL ARTS UNIFORMaCURLING STONE",
  "aLACROSSE STICK AND BALLaSOFTBALLaFLYING DISCaCROISSANTaAVOCADOaCUCUMBERaBACONaPOTATOaCARROT",
  "aBAGUETTE BREADaGREEN SALADaSHALLOW PAN OF FOODaSTUFFED FLATBREADaEGGaGLASS OF MILKaPEANUTS",
  "aKIWIFRUITaPANCAKESaDUMPLINGaFORTUNE COOKIEaTAKEOUT BOXaCHOPSTICKSaBOWL WITH SPOON",
  "aCUP WITH STRAWaCOCONUTaBROCCOLIaPIEaPRETZELaCUT OF MEATaSANDWICHaCANNED FOODaLEAFY GREEN",
  "aMANGOaMOON CAKEaBAGELaSMILING FACE WITH SMILING EYES AND THREE HEARTSaYAWNING FACE",
  "aSMILING FACE WITH TEARaFACE WITH PARTY HORN AND PARTY HATcUNEVEN EYES AND WAVY MOUTH",
  "aOVERHEATED FACEaFREEZING FACEaNINJAaDISGUISED FACEaFACE HOLDING BACK TEARSbWITH PLEADING EYES",
  "aSARIaLAB COATaGOGGLESaHIKING BOOTaFLAT SHOEaCRABaLION FACEaSCORPIONaTURKEYaUNICORN FACEaEAGLE",
  "aDUCKaBATaSHARKaOWLaFOX FACEaBUTTERFLYaDEERaGORILLAaLIZARDaRHINOCEROSaSHRIMPaSQUID",
  "aGIRAFFE FACEaZEBRA FACEaHEDGEHOGaSAUROPODaT-REXaCRICKETaKANGAROOaLLAMAaPEACOCKaHIPPOPOTAMUS",
  "aPARROTaRACCOONaLOBSTERaMOSQUITOaMICROBEaBADGERaSWANaMAMMOTHaDODOaSLOTHaOTTERaORANGUTANaSKUNK",
  "aFLAMINGOaOYSTERaBEAVERaBISONaSEALaGUIDE DOGaPROBING CANEaEMOJI COMPONENT RED HAIRcCURLY HAIR",
  "cBALDcWHITE HAIRaBONEaLEGaFOOTaTOOTHaSUPERHEROaSUPERVILLAINaSAFETY VESTaEAR WITH HEARING AID",
  "aMOTORIZED WHEELCHAIRaMANUAL WHEELCHAIRaMECHANICAL ARMbLEGaCHEESE WEDGEaCUPCAKEaSALT SHAKER",
  "aBEVERAGE BOXaGARLICaONIONaFALAFELaWAFFLEaBUTTERaMATE DRINKaICE CUBEaBUBBLE TEAaTROLL",
  "aSTANDING PERSONaKNEELING PERSONaDEAF PERSONaFACE WITH MONOCLEaADULTaCHILDaOLDER ADULT",
  "aBEARDED PERSONaPERSON WITH HEADSCARFbIN STEAMY ROOMbCLIMBINGbIN LOTUS POSITIONaMAGEaFAIRY",
  "aVAMPIREaMERPERSONaELFaGENIEaZOMBIEaBRAINaORANGE HEARTaBILLED CAPaSCARFaGLOVESaCOATaSOCKS",
  "aRED GIFT ENVELOPEaFIRECRACKERaJIGSAW PUZZLE PIECEaTEST TUBEaPETRI DISHaDNA DOUBLE HELIX",
  "aCOMPASSaABACUSaFIRE EXTINGUISHERaTOOLBOXaBRICKaMAGNETaLUGGAGEaLOTION BOTTLEaSPOOL OF THREAD",
  "aBALL OF YARNaSAFETY PINaTEDDY BEARaBROOMaBASKETaROLL OF PAPERaBAR OF SOAPaSPONGEaRECEIPT",
  "aNAZAR AMULETaNEUTRAL CHESS KINGcQUEENcROOKcBISHOPcKNIGHTcPAWN",
  "aWHITE CHESS KNIGHT ROTATED FORTY-FIVE DEGREESaBLACK CHESS KNIGHT ROTATED FORTY-FIVE DEGREES",
  "aNEUTRAL CHESS KNIGHT ROTATED FORTY-FIVE DEGREESaWHITE CHESS KING ROTATED NINETY DEGREES",
  "cQUEEN ROTATED NINETY DEGREEScROOK ROTATED NINETY DEGREEScBISHOP ROTATED NINETY DEGREES",
  "cKNIGHT ROTATED NINETY DEGREEScPAWN ROTATED NINETY DEGREES",
  "aBLACK CHESS KING ROTATED NINETY DEGREEScQUEEN ROTATED NINETY DEGREES",
  "cROOK ROTATED NINETY DEGREEScBISHOP ROTATED NINETY DEGREEScKNIGHT ROTATED NINETY DEGREES",
  "cPAWN ROTATED NINETY DEGREESaNEUTRAL CHESS KING ROTATED NINETY DEGREES",
  "cQUEEN ROTATED NINETY DEGREEScROOK ROTATED NINETY DEGREEScBISHOP ROTATED NINETY DEGREES",
  "cKNIGHT ROTATED NINETY DEGREEScPAWN ROTATED NINETY DEGREES",
  "aWHITE CHESS KNIGHT ROTATED ONE HUNDRED THIRTY-FIVE DEGREES",
  "aBLACK CHESS KNIGHT ROTATED ONE HUNDRED THIRTY-FIVE DEGREES",
  "aNEUTRAL CHESS KNIGHT ROTATED ONE HUNDRED THIRTY-FIVE DEGREESaWHITE CHESS TURNED KINGdQUEEN",
  "dROOKdBISHOPdKNIGHTdPAWNaBLACK CHESS TURNED KINGdQUEENdROOKdBISHOPdKNIGHTdPAWN",
  "aNEUTRAL CHESS TURNED KINGdQUEENdROOKdBISHOPdKNIGHTdPAWN",
  "aWHITE CHESS KNIGHT ROTATED TWO HUNDRED TWENTY-FIVE DEGREES",
  "aBLACK CHESS KNIGHT ROTATED TWO HUNDRED TWENTY-FIVE DEGREES",
  "aNEUTRAL CHESS KNIGHT ROTATED TWO HUNDRED TWENTY-FIVE DEGREES",
  "aWHITE CHESS KING ROTATED TWO HUNDRED SEVENTY DEGREES",
  "cQUEEN ROTATED TWO HUNDRED SEVENTY DEGREEScROOK ROTATED TWO HUNDRED SEVENTY DEGREES",
  "cBISHOP ROTATED TWO HUNDRED SEVENTY DEGREEScKNIGHT ROTATED TWO HUNDRED SEVENTY DEGREES",
  "cPAWN ROTATED TWO HUNDRED SEVENTY DEGREESaBLACK CHESS KING ROTATED TWO HUNDRED SEVENTY DEGREES",
  "cQUEEN ROTATED TWO HUNDRED SEVENTY DEGREEScROOK ROTATED TWO HUNDRED SEVENTY DEGREES",
  "cBISHOP ROTATED TWO HUNDRED SEVENTY DEGREEScKNIGHT ROTATED TWO HUNDRED SEVENTY DEGREES",
  "cPAWN ROTATED TWO HUNDRED SEVENTY DEGREES",
  "aNEUTRAL CHESS KING ROTATED TWO HUNDRED SEVENTY DEGREES",
  "cQUEEN ROTATED TWO HUNDRED SEVENTY DEGREEScROOK ROTATED TWO HUNDRED SEVENTY DEGREES",
  "cBISHOP ROTATED TWO HUNDRED SEVENTY DEGREEScKNIGHT ROTATED TWO HUNDRED SEVENTY DEGREES",
  "cPAWN ROTATED TWO HUNDRED SEVENTY DEGREES",
  "aWHITE CHESS KNIGHT ROTATED THREE HUNDRED FIFTEEN DEGREES",
  "aBLACK CHESS KNIGHT ROTATED THREE HUNDRED FIFTEEN DEGREES",
  "aNEUTRAL CHESS KNIGHT ROTATED THREE HUNDRED FIFTEEN DEGREESaWHITE CHESS EQUIHOPPER",
  "aBLACK CHESS EQUIHOPPERaNEUTRAL CHESS EQUIHOPPERaWHITE CHESS EQUIHOPPER ROTATED NINETY DEGREES",
  "aBLACK CHESS EQUIHOPPER ROTATED NINETY DEGREESaNEUTRAL CHESS EQUIHOPPER ROTATED NINETY DEGREES",
  "aWHITE CHESS KNIGHT-QUEENcKNIGHT-ROOKcKNIGHT-BISHOPaBLACK CHESS KNIGHT-QUEENcKNIGHT-ROOK",
  "cKNIGHT-BISHOP.1FA60aXIANGQI RED GENERALcMANDARINcELEPHANTcHORSEcCHARIOTcCANNONcSOLDIER",
  "bBLACK GENERALcMANDARINcELEPHANTcHORSEcCHARIOTcCANNONcSOLDIER.1FA70aBALLET SHOES",
  "aONE-PIECE SWIMSUITaBRIEFSaSHORTSaTHONG SANDAL.1FA78aDROP OF BLOODaADHESIVE BANDAGE",
  "aSTETHOSCOPEaX-RAYaCRUTCH.1FA80aYO-YOaKITEaPARACHUTEaBOOMERANGaMAGIC WANDaPINATAaNESTING DOLLS",
  ".1FA90aRINGED PLANETaCHAIRaRAZORaAXEaDIYA LAMPaBANJOaMILITARY HELMETaACCORDIONaLONG DRUMaCOIN",
  "aCARPENTRY SAWaSCREWDRIVERaLADDERaHOOKaMIRRORaWINDOWaPLUNGERaSEWING NEEDLEaKNOTaBUCKET",
  "aMOUSE TRAPaTOOTHBRUSHaHEADSTONEaPLACARDaROCKaMIRROR BALLaIDENTIFICATION CARDaLOW BATTERY",
  "aHAMSA.1FAB0aFLYaWORMaBEETLEaCOCKROACHaPOTTED PLANTaWOODaFEATHERaLOTUSaCORALaEMPTY NEST",
  "aNEST WITH EGGS.1FAC0aANATOMICAL HEARTaLUNGSaPEOPLE HUGGINGaPREGNANT MANbPERSON",
  "aPERSON WITH CROWN.1FAD0aBLUEBERRIESaBELL PEPPERaOLIVEaFLATBREADaTAMALEaFONDUEaTEAPOT",
  "aPOURING LIQUIDaBEANSaJAR.1FAE0aMELTING FACEaSALUTING FACE",
  "aFACE WITH OPEN EYES AND HAND OVER MOUTHcPEEKING EYEcDIAGONAL MOUTHaDOTTED LINE FACE",
  "aBITING LIPaBUBBLES.1FAF0aHAND WITH INDEX FINGER AND THUMB CROSSEDaRIGHTWARDS HAND",
  "aLEFTWARDS HANDaPALM DOWN HANDbUP HANDaINDEX POINTING AT THE VIEWERaHEART HANDS",
  ".1FB00aBLOCK SEXTANT-1bSEXTANT-2bSEXTANT-12bSEXTANT-3bSEXTANT-13bSEXTANT-23bSEXTANT-123",
  "bSEXTANT-4bSEXTANT-14bSEXTANT-24bSEXTANT-124bSEXTANT-34bSEXTANT-134bSEXTANT-234bSEXTANT-1234",
  "bSEXTANT-5bSEXTANT-15bSEXTANT-25bSEXTANT-125bSEXTANT-35bSEXTANT-235bSEXTANT-1235bSEXTANT-45",
  "bSEXTANT-145bSEXTANT-245bSEXTANT-1245bSEXTANT-345bSEXTANT-1345bSEXTANT-2345bSEXTANT-12345",
  "bSEXTANT-6bSEXTANT-16bSEXTANT-26bSEXTANT-126bSEXTANT-36bSEXTANT-136bSEXTANT-236bSEXTANT-1236",
  "bSEXTANT-46bSEXTANT-146bSEXTANT-1246bSEXTANT-346bSEXTANT-1346bSEXTANT-2346bSEXTANT-12346",
  "bSEXTANT-56bSEXTANT-156bSEXTANT-256bSEXTANT-1256bSEXTANT-356bSEXTANT-1356bSEXTANT-2356",
  "bSEXTANT-12356bSEXTANT-456bSEXTANT-1456bSEXTANT-2456bSEXTANT-12456bSEXTANT-3456bSEXTANT-13456",
  "bSEXTANT-23456aLOWER LEFT BLOCK DIAGONAL LOWER MIDDLE LEFT TO LOWER CENTREjRIGHT",
  "eUPPER MIDDLE LEFT TO LOWER CENTREjRIGHTfLEFT TO LOWER CENTRE",
  "bRIGHT BLOCK DIAGONAL UPPER MIDDLE LEFT TO UPPER CENTREjRIGHT",
  "eLOWER MIDDLE LEFT TO UPPER CENTREjRIGHTfLEFT TO UPPER CENTRE",
  "fMIDDLE LEFT TO UPPER MIDDLE RIGHTfCENTRE TO LOWER MIDDLE RIGHTfLEFT TO LOWER MIDDLE RIGHT",
  "fCENTRE TO UPPER MIDDLE RIGHTfLEFT TO UPPER MIDDLE RIGHTfCENTRE TO UPPER RIGHT",
  "bLEFT BLOCK DIAGONAL UPPER CENTRE TO UPPER MIDDLE RIGHTfLEFT TO UPPER MIDDLE RIGHT",
  "fCENTRE TO LOWER MIDDLE RIGHTfLEFT TO LOWER MIDDLE RIGHTfCENTRE TO LOWER RIGHT",
  "fMIDDLE LEFT TO LOWER MIDDLE RIGHT",
  "aUPPER RIGHT BLOCK DIAGONAL LOWER MIDDLE LEFT TO LOWER CENTREjRIGHT",
  "eUPPER MIDDLE LEFT TO LOWER CENTREjRIGHTfLEFT TO LOWER CENTRE",
  "bLEFT BLOCK DIAGONAL UPPER MIDDLE LEFT TO UPPER CENTREjRIGHTeLOWER MIDDLE LEFT TO UPPER CENTRE",
  "jRIGHTfLEFT TO UPPER CENTREfMIDDLE LEFT TO UPPER MIDDLE RIGHTfCENTRE TO LOWER MIDDLE RIGHT",
  "fLEFT TO LOWER MIDDLE RIGHTfCENTRE TO UPPER MIDDLE RIGHTfLEFT TO UPPER MIDDLE RIGHT",
  "fCENTRE TO UPPER RIGHTbRIGHT BLOCK DIAGONAL UPPER CENTRE TO UPPER MIDDLE RIGHT",
  "fLEFT TO UPPER MIDDLE RIGHTfCENTRE TO LOWER MIDDLE RIGHTfLEFT TO LOWER MIDDLE RIGHT",
  "fCENTRE TO LOWER RIGHTfMIDDLE LEFT TO LOWER MIDDLE RIGHT",
  "bAND RIGHT AND LOWER TRIANGULAR THREE QUARTERS BLOCK",
  "aLEFT AND LOWER AND RIGHT TRIANGULAR THREE QUARTERS BLOCK",
  "aUPPER AND LEFT AND LOWER TRIANGULAR THREE QUARTERS BLOCK",
  "aLEFT AND UPPER AND RIGHT TRIANGULAR THREE QUARTERS BLOCKbTRIANGULAR ONE QUARTER BLOCK",
  "aUPPER TRIANGULAR ONE QUARTER BLOCKaRIGHT TRIANGULAR ONE QUARTER BLOCK",
  "aLOWER TRIANGULAR ONE QUARTER BLOCKaVERTICAL ONE EIGHTH BLOCK-2dBLOCK-3dBLOCK-4dBLOCK-5",
  "dBLOCK-6dBLOCK-7aHORIZONTAL ONE EIGHTH BLOCK-2dBLOCK-3dBLOCK-4dBLOCK-5dBLOCK-6dBLOCK-7",
  "aLEFT AND LOWER ONE EIGHTH BLOCKcUPPER ONE EIGHTH BLOCKaRIGHT AND UPPER ONE EIGHTH BLOCK",
  "cLOWER ONE EIGHTH BLOCKaUPPER AND LOWER ONE EIGHTH BLOCKaHORIZONTAL ONE EIGHTH BLOCK-1358",
  "aUPPER ONE QUARTER BLOCKbTHREE EIGHTHS BLOCKbFIVE EIGHTHS BLOCKbTHREE QUARTERS BLOCK",
  "bSEVEN EIGHTHS BLOCKaRIGHT ONE QUARTER BLOCKbTHREE EIGHTHS BLOCKbFIVE EIGHTHS BLOCK",
  "bTHREE QUARTERS BLOCKbSEVEN EIGHTHS BLOCKaLEFT HALF MEDIUM SHADEaRIGHT HALF MEDIUM SHADE",
  "aUPPER HALF MEDIUM SHADEaLOWER HALF MEDIUM SHADEaINVERSE MEDIUM SHADE",
  "aUPPER HALF BLOCK AND LOWER HALF INVERSE MEDIUM SHADE",
  "cINVERSE MEDIUM SHADE AND LOWER HALF BLOCK",
  ".1FB94aLEFT HALF INVERSE MEDIUM SHADE AND RIGHT HALF BLOCKaCHECKER BOARD FILL",
  "aINVERSE CHECKER BOARD FILLaHEAVY HORIZONTAL FILLaUPPER LEFT TO LOWER RIGHT FILL",
  "bRIGHT TO LOWER LEFT FILLbAND LOWER TRIANGULAR HALF BLOCKaLEFT AND RIGHT TRIANGULAR HALF BLOCK",
  "aUPPER LEFT TRIANGULAR MEDIUM SHADEbRIGHT TRIANGULAR MEDIUM SHADE",
  "aLOWER RIGHT TRIANGULAR MEDIUM SHADEbLEFT TRIANGULAR MEDIUM SHADE",
  "aBOX DRAWINGS LIGHT DIAGONAL UPPER CENTRE TO MIDDLE LEFTiRIGHTeMIDDLE LEFT TO LOWER CENTRE",
  "fRIGHT TO LOWER CENTREeUPPER CENTRE TO MIDDLE LEFT TO LOWER CENTREiRIGHT TO LOWER CENTRE",
  "eMIDDLE LEFT TO LOWER CENTRE TO MIDDLE RIGHThUPPER CENTRE TO MIDDLE RIGHT",
  "eUPPER CENTRE TO MIDDLE LEFT AND MIDDLE RIGHT TO LOWER CENTRE",
  "iRIGHT AND MIDDLE LEFT TO LOWER CENTREjTO LOWER CENTRE TO MIDDLE LEFT",
  "iLEFT TO LOWER CENTRE TO MIDDLE RIGHT",
  "eMIDDLE LEFT TO UPPER CENTRE TO MIDDLE RIGHT TO LOWER CENTRE",
  "fRIGHT TO UPPER CENTRE TO MIDDLE LEFT TO LOWER CENTREeDIAMONDdHORIZONTAL WITH VERTICAL STROKE",
  "aARROWHEAD-SHAPED POINTERaINVERSE CHECK MARKaLEFT HALF RUNNING MANaRIGHT HALF RUNNING MAN",
  "aINVERSE DOWNWARDS ARROW WITH TIP LEFTWARDS",
  "aLEFTWARDS ARROW AND UPPER AND LOWER ONE EIGHTH BLOCK",
  "aRIGHTWARDS ARROW AND UPPER AND LOWER ONE EIGHTH BLOCK",
  "aDOWNWARDS ARROW AND RIGHT ONE EIGHTH BLOCKaUPWARDS ARROW AND RIGHT ONE EIGHTH BLOCK",
  "aLEFT HALF FOLDERaRIGHT HALF FOLDERaVOIDED GREEK CROSSaRIGHT OPEN SQUARED DOT",
  "aNEGATIVE DIAGONAL CROSScMIDDLE RIGHT TO LOWER CENTREcDIAMOND",
  "aWHITE HEAVY SALTIRE WITH ROUNDED CORNERSaLEFT THIRD WHITE RIGHT POINTING INDEX",
  "aMIDDLE THIRD WHITE RIGHT POINTING INDEXaRIGHT THIRD WHITE RIGHT POINTING INDEX",
  "aNEGATIVE SQUARED QUESTION MARKaSTICK FIGUREcWITH ARMS RAISEDcLEANING LEFTdRIGHTcWITH DRESS",
  "aWHITE UP-POINTING CHEVRON.1FBF0aSEGMENTED DIGIT ZEROcONEcTWOcTHREEcFOURcFIVEcSIXcSEVENcEIGHT",
  "cNINE.E0001aLANGUAGE TAG.E0020aTAG SPACEbEXCLAMATION MARKbQUOTATION MARKbNUMBER SIGN",
  "bDOLLAR SIGNbPERCENT SIGNbAMPERSANDbAPOSTROPHEbLEFT PARENTHESISbRIGHT PARENTHESISbASTERISK",
  "bPLUS SIGNbCOMMAbHYPHEN-MINUSbFULL STOPbSOLIDUSbDIGIT ZEROcONEcTWOcTHREEcFOURcFIVEcSIXcSEVEN",
  "cEIGHTcNINEbCOLONbSEMICOLONbLESS-THAN SIGNbEQUALS SIGNbGREATER-THAN SIGNbQUESTION MARK",
  "bCOMMERCIAL ATbLATIN CAPITAL LETTER AeBeCeDeEeFeGeHeIeJeKeLeMeNeOePeQeReSeTeUeVeWeXeYeZ",
  "bLEFT SQUARE BRACKETbREVERSE SOLIDUSbRIGHT SQUARE BRACKETbCIRCUMFLEX ACCENTbLOW LINE",
  "bGRAVE ACCENTbLATIN SMALL LETTER AeBeCeDeEeFeGeHeIeJeKeLeMeNeOePeQeReSeTeUeVeWeXeYeZ",
  "bLEFT CURLY BRACKETbVERTICAL LINEbRIGHT CURLY BRACKETbTILDEaCANCEL TAG"]

end Literate.Text
