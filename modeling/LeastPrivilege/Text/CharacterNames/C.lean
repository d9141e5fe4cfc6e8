/-!
Names of characters that begin with `C`.
-/

namespace LeastPrivilege.Text

/-- The names of characters that begin with `C`, in the short form. -/
def namesC : String := "
aCACTUSaCADA UNAaCADUCEUSaCALENDARaCALL ME HANDaCAMERAaCAMERA WITH FLASHaCAMPINGaCAN
aCANADIAN SYLLABICS AcAAcAAIcAAYcAIcAIVILIK BcANcATHAPASCAN MdScAYcBEAVER DENE LeRcBIBLE-CREE Y
cBLACKFOOT AdEdIdKAdKEdKIdKOdNAdNEdNIdNOdOdSdWdWAdWEdWIdWOcCcCAcCAAcCAAIcCARRIER CHAdCHEdCHEEdCHI
dCHOdCHUdDEEdDENE GEEdDENTAL SdDIdDLAdDLEdDLEEdDLIdDLOdDLUdDZAdDZEdDZEEdDZIdDZOdDZUdEEdGAdGAAdGEdGEE
dGHAdGHEdGHEEdGHIdGHOdGHUdGIdGOdGUdGWAdGWUdHdHEEdHIdHWAdHWEdHWEEdHWIdHWOdHWUdIdINITIAL ZdJAdJEdJEE
dJIdJJAdJJEdJJEEdJJIdJJOdJJUdJOdJUdJWAdKHAdKHEdKHEEdKHIdKHOdKHUdKKdKKAdKKEdKKEEdKKIdKKOdKKUdLAdLE
dLEEdLHAdLHEdLHEEdLHIdLHOdLHUdLIdLOdLUdMAdMEdMEEdMIdMOdMUdNAdNEdNEEdNGdNIdNOdNUdPdPAdPEdPEEdPIdPOdPU
dRAdREdREEdRIdROdRUdSAdSEdSEEdSHdSHAdSHEdSHEEdSHIdSHOdSHUdSIdSOdSUdTHAdTHEdTHEEdTHIdTHOdTHUdTLAdTLE
dTLEEdTLHAdTLHEdTLHEEdTLHIdTLHOdTLHUdTLIdTLOdTLUdTSAdTSEdTSEEdTSIdTSOdTSUdTTAdTTEdTTEEdTTIdTTOdTTSA
dTTSEdTTSEEdTTSIdTTSOdTTSUdTTUdWAdWEdWEEdWIdWOdWUdYAdYEdYEEdYIdYOdYUdZdZAdZEdZEEdZIdZOdZUcCE
cCHI SIGNcCIcCIIcCOcCOOcCWAcCWAAcCWEcCWIcCWIIcCWOcCWOOcEcEASTERN WcENcFcFAcFAAcFAAIcFEcFIcFII
cFINAL ACUTEdBOTTOM HALF RINGdDOUBLE ACUTEeSHORT VERTICAL STROKESdDOWN TACKdGRAVEdMIDDLE DOTdPLUS
dRAISED DOTdRIGHT HALF RINGdRINGdSHORT HORIZONTAL STROKEdSMALL RINGdTOP HALF RINGcFOcFOOcFULL STOP
cFWAAcGLOTTAL STOPcHKcHYPHENcIcIIcINcKcKAcKAAcKAAIcKAYcKEcKIcKIIcKOcKOOcKWcKWAcKWAAcKWAYcKWEcKWI
cKWIIcKWOcKWOOcLcLAcLAAcLAAIcLAYcLEcLHcLHAcLHAAcLHIcLHIIcLHOcLHOOcLIcLIIcLOcLOOcLWAcLWAAcLWEcLWI
cLWIIcLWOcLWOOcMcMAcMAAcMAAIcMAYcMEcMEDIAL LdRcMHcMIcMIIcMOcMOOcMOOSE-CREE SKcMWAcMWAAcMWEcMWIcMWII
cMWOcMWOOcNcN-CREE THEeTHIeTHIIcNAcNAAcNAAIcNASKAPI CWAAdKWAAdMWAAdNWAAdS-WdSCWAdSKWdSKWAdSPWAdSTWA
dSWAAdTWAAdWAAdWOOdYWAAcNATTILIK HAdHAAdHIdHIIdHOdHOOdSHRAdSHRAAdSHRIdSHRIIdSHROdSHROOcNAYcNEcNGcNGA
cNGAAcNGAAIcNGAIcNGIcNGIIcNGOcNGOOcNHcNIcNIIcNNGcNNGAcNNGAAcNNGIcNNGIIcNNGOcNNGOOcNOcNOOcNOY
cNUNAVIK HdHAdHAAdHEdHIdHIIdHOdHOOcNUNAVUT HcNWAcNWAAcNWEcNWIcNWIIcNWOcNWOOcOcOJIBWAY CdKdMdNdNWI
dNWIIdNWOdNWOOdPdSdSHdTcONcOOcOYcPcPAcPAAcPAAIcPAYcPEcPIcPIIcPOcPOOcPOYcPWAcPWAAcPWEcPWIcPWIIcPWO
cPWOOcPWOYcQcQAcQAAcQAAIcQAIcQIcQIIcQOcQOOcRcR-CREE REeRWEcRAcRAAcRAAIcRAYcREcRIcRIIcROcROOcRWAcRWAA
cRWEEcRWIcRWIIcRWOcRWOOcScSAcSAAcSAAIcSAYcSAYISI HAdHEdHIdHOdHOOdJIdJUdJUUdMdSHAdSHEdSHIdSHOdSHOO
dSHWEdTHdYIcSEcSHcSHAcSHAAcSHAYcSHEcSHIcSHIIcSHOcSHOOcSHOYcSHWAcSHWAAcSHWEcSHWIcSHWIIcSHWOcSHWOO
cSHWOYcSIcSIIcSOcSOOcSOUTH-SLAVEY KAHeKEHeKIHeKOHcSOYcSPAcSPEcSPIcSPOcSWcSWAcSWAAcSWEcSWIcSWIIcSWO
cSWOOcTcTAcTAAcTAAIcTAYcTEcTHcTH-CREE THeTHAeTHAAeTHEeTHIeTHIIeTHOeTHOOcTHAcTHAAcTHEcTHIcTHIIcTHO
cTHOOcTHWAcTHWAAcTHWEcTIcTIIcTLHAcTLHEcTLHIcTLHOcTLHOOcTLHWEcTOcTOOcTTAcTTEcTTHcTTHAcTTHAAcTTHEcTTHI
cTTHOcTTHOOcTTHWEcTTIcTTOcTWAcTWAAcTWEcTWIcTWIIcTWOcTWOOcTYAcTYEcTYIcTYOcWAcWAAcWAYcWEcWEST-CREE CWA
eCWAAeCWEeCWIeCWIIeCWOeCWOOeFWAAeKWAeKWAAeKWEeKWIeKWIIeKWOeKWOOeLeLAeLAAeLEeLOeLOOeLWAeLWAAeLWEeLWI
eLWIIeLWOeLWOOeMeMWAeMWAAeMWEeMWIeMWIIeMWOeMWOOeNWAeNWAAeNWEePePWAePWAAePWEePWIePWIIePWOePWOOeReRA
eREeRIeROeRWAAeSHWAeSHWAAeSHWEeSHWIeSHWIIeSHWOeSHWOOeSWAeSWAAeSWEeSWIeSWIIeSWOeSWOOeTHWAAeTWAeTWAA
eTWEeTWIeTWIIeTWOeTWOOeWAeWAAeWEeWIeWIIeWOeWOOeYeYWAeYWAAeYWEeYWIeYWIIeYWOeYWOOcWESTERN WcWIcWIIcWO
cWOOcWOODS-CREE FINAL THeTHeTHAeTHEeTHIeTHOeTHWAeTHWAAeTHWEEeTHWIeTHWIIeTHWOeTHWOOcYcY-CREE COOeKOO
eLOOeMOOeNOOeOOePOOePWAAeSOOeTOOeWeYOOcYAcYAAcYAAIcYAYcYEcYIcYIIcYOcYOOcYOYcYWAcYWAAcYWEcYWIcYWII
cYWOcYWOOaCANCELaCANCEL CHARACTERbTAGaCANCELLATION XaCANCERaCANDLEaCANDYaCANNED FOODaCANOEaCAPITULUM
aCAPRICORNaCAR SLIDINGaCARD FILE BOXbINDEXbINDEX DIVIDERSaCARE OFaCARETaCARET INSERTION POINT
aCARIAN LETTER AcA2cBcC-18d39cDcD2cEcE2cGcG2cIcIIcKcK2cLcLDcLD2cMcMBcMB2cMB3cMB4cNcNDcNGcNNcOcPcP2cQ
cRcRRcScSHcSH2cSScSTcST2cTcTTcTT2cUcUUcUUUcUUU2cUUU3cUUUUcXaCARONaCAROUSEL HORSEaCARP STREAMER
aCARPENTRY SAWaCARRIAGE RETURNaCARROTaCASTLEaCATaCAT FACEbFACE WITH TEARS OF JOYdWRY SMILE
aCAUCASIAN ALBANIAN CITATION MARKcLETTER ALTdAORdBETdCARdCAYNdCHAdCHATdCHIdCHOYdCYAWdCYAYdDATdDYAN
dDZAYdDZYAYdEBdEYNdFAMdGHEYSdGIMdHEYTdINYAdIRBdIWNdJAYNdJHOXdKARdKIWdLANdLYITdMAQdNOWCdONdPENdPIWR
dQARdQAYdRATdSEYKdSHAdSHAKdSHOYdTASdTIWRdTYAYdVEYZdXEYNdYAYDdYOWDdZARLdZHAdZHILaCAUTION SIGNaCCH
aCEDI SIGNaCEDILLAaCELTIC CROSSaCENT SIGNaCENTRE LINE SYMBOLaCENTRELINE LOW LINEbOVERLINEaCERESaCGJ
aCHAINSaCHAIRaCHAKMA AU MARKbDANDAbDIGIT EIGHTcFIVEcFOURcNINEcONEcSEVENcSIXcTHREEcTWOcZERO
bDOUBLE DANDAbLETTER AAcBAAcBHAAcCAAcCHAAcDAAcDDAAcDDHAAcDHAAcEcGAAcGHAAcHAAcIcJAAcJHAAcKAAcKHAAcLAA
cLHAAcMAAcNAAcNGAAcNNAAcNYAAcPAAcPHAAcRAAcSAAcTAAcTHAAcTTAAcTTHAAcUcVAAcWAAcYAAcYYAAbMAAYYAAbO MARK
bQUESTION MARKbSECTION MARKbSIGN ANUSVARAcCANDRABINDUcVISARGAbVIRAMAbVOWEL SIGN AdAAdAIdAUdEdEIdIdII
dOdOIdUdUUaCHAM CONSONANT SIGN FINAL HeMeNGdLAdRAdWAdYAbDIGIT EIGHTcFIVEcFOURcNINEcONEcSEVENcSIX
cTHREEcTWOcZERObLETTER AcAIcBAcBBAcBHAcCHAcCHHAcDAcDDAcDHAcEcFINAL CHdGdKdLdNdNGdPdRdSSdTdYcGAcGHA
cHAcIcJAcJHAcKAcKHAcLAcMAcMUEcNAcNGAcNGUEcNHAcNHJAcNHUEcNUEcOcPAcPHAcPPAcRAcSAcSSAcTAcTHAcUcVAcYA
bPUNCTUATION DANDAcDOUBLE DANDAcSPIRALcTRIPLE DANDAbVOWEL SIGN AAdAIdAUdEIdIdIIdOdOEdUdUE
aCHARACTER TABULATIONbTABULATION SETcWITH JUSTIFICATIONbTIEaCHART WITH DOWNWARDS TRENDcUPWARDS TREND
dTREND AND YEN SIGNaCHECK MARKaCHECKER BOARDbBOARD FILLaCHEERING MEGAPHONEaCHEESE WEDGE
aCHEQUERED FLAGaCHEROKEE LETTER AcDAcDEcDIcDLAcDOcDUcDVcEcGAcGEcGIcGOcGUcGVcHAcHEcHIcHNAcHOcHUcHVcI
cKAcLAcLEcLIcLOcLUcLVcMAcMEcMIcMOcMUcMVcNAcNAHcNEcNIcNOcNUcNVcOcQUAcQUEcQUIcQUOcQUUcQUVcScSAcSEcSI
cSOcSUcSVcTAcTEcTIcTLAcTLEcTLIcTLOcTLUcTLVcTSAcTSEcTSIcTSOcTSUcTSVcUcVcWAcWEcWIcWOcWUcWVcYAcYEcYIcYO
cYUcYVbSMALL LETTER AdDAdDEdDIdDLAdDOdDUdDVdEdGAdGEdGIdGOdGUdGVdHAdHEdHIdHNAdHOdHUdHVdIdKAdLAdLEdLI
dLOdLUdLVdMAdMEdMIdMOdMUdMVdNAdNAHdNEdNIdNOdNUdNVdOdQUAdQUEdQUIdQUOdQUUdQUVdSdSAdSEdSIdSOdSUdSVdTA
dTEdTIdTLAdTLEdTLIdTLOdTLUdTLVdTSAdTSEdTSIdTSOdTSUdTSVdUdVdWAdWEdWIdWOdWUdWVdYAdYEdYIdYOdYUdYV
aCHERRIESaCHERRY BLOSSOMaCHESTNUTaCHI RHOaCHICKENaCHILDaCHILDREN CROSSINGaCHIPMUNKaCHIRON
aCHOCOLATE BARaCHOPSTICKSaCHORASMIAN LETTER ALEPHcAYINcBETHcCURLED WAWcDALETHcGIMELcHEcHETHcKAPH
cLAMEDHcMEMcNUNcPEcRESHcSAMEKHcSHINcSMALL ALEPHcTAWcWAWcYODHcZAYINbNUMBER FOURcONEcONE HUNDREDcTEN
cTHREEcTWENTYcTWOaCHRISTMAS TREEaCHURCHaCINEMA
aCIRCLE DIVIDED BY HORIZONTAL BAR AND TOP HALF DIVIDED BY VERTICAL BAR
bWITH ALL BUT UPPER LEFT QUADRANT BLACKcHORIZONTAL BARcLEFT HALF BLACKcLOWER HALF BLACK
cRIGHT HALF BLACKcSMALL CIRCLE TO THE RIGHTcSUPERIMPOSED XcTWO HORIZONTAL STROKES TO THE RIGHT
cUPPER HALF BLACKdRIGHT QUADRANT BLACKcVERTICAL FILLaCIRCLED ANTICLOCKWISE ARROW
bANTICLOCKWISE-ROTATED DIVISION SIGNbASTERISK OPERATORbBOLD XbBULLETbC WITH OVERLAID BACKSLASHbCCbCD
bCROSS FORMEEcFORMEE WITH FOUR DOTSeTWO DOTScPOMMEEbCROSSING LANESbDASHbDIGIT EIGHTcFIVEcFOURcNINE
cONEcSEVENcSIXcTHREEcTWOcZERObDIVISION SIGNcSLASHbDOLLAR SIGN WITH OVERLAID BACKSLASHbDOT OPERATOR
bEQUALSbGREATER-THANbHANGUL CHIEUCHcCHIEUCH AcCIEUCcCIEUC AcHIEUHcHIEUH AcIEUNGcIEUNG AdUcKHIEUKH
cKHIEUKH AcKIYEOKcKIYEOK AcMIEUMcMIEUM AcNIEUNcNIEUN AcPHIEUPHcPHIEUPH AcPIEUPcPIEUP AcRIEULcRIEUL A
cSIOScSIOS AcTHIEUTHcTHIEUTH AcTIKEUTcTIKEUT AbHEAVY WHITE RIGHTWARDS ARROW
bHORIZONTAL BAR WITH NOTCHbHUMAN FIGUREbIDEOGRAPH ACCEPTcADVANTAGEcALLIANCEcATTENTIONcCENTRE
cCONGRATULATIONcCOPYcCORRECTcEARTHcEIGHTcENTERPRISEcEXCELLENTcFEMALEcFINANCIALcFIREcFIVEcFOURcHAVE
cHIGHcITEMcKINDERGARTENcKOTOcLABORcLEFTcLOWcMALEcMEDICINEcMETALcMOONcNAMEcNIGHTcNINEcONEcPRINT
cQUESTIONcRELIGIONcRESOURCEcRESTcRIGHTcSCHOOLcSECRETcSEVENcSIXcSOCIETYcSPECIALcSTOCKcSTUDYcSUITABLE
cSUNcSUPERVISEcTENcTHREEcTWOcWATERcWOODbINFORMATION SOURCEbITALIC LATIN CAPITAL LETTER CfR
bKATAKANA AcEcHAcHEcHIcHOcHUcIcKAcKEcKIcKOcKUcMAcMEcMIcMOcMUcNAcNEcNIcNOcNUcOcRAcREcRIcROcRUcSAcSE
cSIcSOcSUcTAcTEcTIcTOcTUcUcWAcWEcWIcWOcYAcYOcYUbKOREAN CHARACTER CHAMKOdJUEUIbLATIN CAPITAL LETTER A
eBeCeDeEeFeGeHeIeJeKeLeMeNeOePeQeReSeTeUeVeWeXeYeZcSMALL LETTER AeBeCeDeEeFeGeHeIeJeKeLeMeNeOePeQeR
eSeTeUeVeWeXeYeZbLESS-THANbMINUSbMULTIPLICATION SIGN WITH CIRCUMFLEX ACCENTbNUMBER EIGHTEEN
cEIGHTY ON BLACK SQUAREcELEVENcFIFTEENcFIFTYcFIFTY ON BLACK SQUAREcFORTYcFORTY EIGHTdFIVEdFOURdNINE
dON BLACK SQUAREdONEdSEVENdSIXdTHREEdTWOcFOURTEENcNINETEENcSEVENTEENcSEVENTY ON BLACK SQUAREcSIXTEEN
cSIXTY ON BLACK SQUAREcTENcTEN ON BLACK SQUAREcTHIRTEENcTHIRTYcTHIRTY EIGHTdFIVEdFOURdNINE
dON BLACK SQUAREdONEdSEVENdSIXdTHREEdTWOcTWELVEcTWENTYcTWENTY EIGHTdFIVEdFOURdNINEdON BLACK SQUARE
dONEdSEVENdSIXdTHREEdTWObOPEN CENTRE EIGHT POINTED STARbPARALLELbPERPENDICULARbPLUSbPOSTAL MARK
bREVERSE SOLIDUSbRING OPERATORbSQUAREbTIMESbTRIANGLEbTRIANGLE DOWNbVERTICAL BARbWHITE BULLETcSTARbWZ
bXbZERO WITH SLASHaCIRCULATION FUNCTIONaCIRCUMFLEX ACCENTaCIRCUS TENTaCITYSCAPEaCITYSCAPE AT DUSK
aCJK COMPATIBILITY IDEOGRAPH-2F800d2F801d2F802d2F803d2F804d2F805d2F806d2F807d2F808d2F809d2F80Ad2F80B
d2F80Cd2F80Dd2F80Ed2F80Fd2F810d2F811d2F812d2F813d2F814d2F815d2F816d2F817d2F818d2F819d2F81Ad2F81B
d2F81Cd2F81Dd2F81Ed2F81Fd2F820d2F821d2F822d2F823d2F824d2F825d2F826d2F827d2F828d2F829d2F82Ad2F82B
d2F82Cd2F82Dd2F82Ed2F82Fd2F830d2F831d2F832d2F833d2F834d2F835d2F836d2F837d2F838d2F839d2F83Ad2F83B
d2F83Cd2F83Dd2F83Ed2F83Fd2F840d2F841d2F842d2F843d2F844d2F845d2F846d2F847d2F848d2F849d2F84Ad2F84B
d2F84Cd2F84Dd2F84Ed2F84Fd2F850d2F851d2F852d2F853d2F854d2F855d2F856d2F857d2F858d2F859d2F85Ad2F85B
d2F85Cd2F85Dd2F85Ed2F85Fd2F860d2F861d2F862d2F863d2F864d2F865d2F866d2F867d2F868d2F869d2F86Ad2F86B
d2F86Cd2F86Dd2F86Ed2F86Fd2F870d2F871d2F872d2F873d2F874d2F875d2F876d2F877d2F878d2F879d2F87Ad2F87B
d2F87Cd2F87Dd2F87Ed2F87Fd2F880d2F881d2F882d2F883d2F884d2F885d2F886d2F887d2F888d2F889d2F88Ad2F88B
d2F88Cd2F88Dd2F88Ed2F88Fd2F890d2F891d2F892d2F893d2F894d2F895d2F896d2F897d2F898d2F899d2F89Ad2F89B
d2F89Cd2F89Dd2F89Ed2F89Fd2F8A0d2F8A1d2F8A2d2F8A3d2F8A4d2F8A5d2F8A6d2F8A7d2F8A8d2F8A9d2F8AAd2F8AB
d2F8ACd2F8ADd2F8AEd2F8AFd2F8B0d2F8B1d2F8B2d2F8B3d2F8B4d2F8B5d2F8B6d2F8B7d2F8B8d2F8B9d2F8BAd2F8BB
d2F8BCd2F8BDd2F8BEd2F8BFd2F8C0d2F8C1d2F8C2d2F8C3d2F8C4d2F8C5d2F8C6d2F8C7d2F8C8d2F8C9d2F8CAd2F8CB
d2F8CCd2F8CDd2F8CEd2F8CFd2F8D0d2F8D1d2F8D2d2F8D3d2F8D4d2F8D5d2F8D6d2F8D7d2F8D8d2F8D9d2F8DAd2F8DB
d2F8DCd2F8DDd2F8DEd2F8DFd2F8E0d2F8E1d2F8E2d2F8E3d2F8E4d2F8E5d2F8E6d2F8E7d2F8E8d2F8E9d2F8EAd2F8EB
d2F8ECd2F8EDd2F8EEd2F8EFd2F8F0d2F8F1d2F8F2d2F8F3d2F8F4d2F8F5d2F8F6d2F8F7d2F8F8d2F8F9d2F8FAd2F8FB
d2F8FCd2F8FDd2F8FEd2F8FFd2F900d2F901d2F902d2F903d2F904d2F905d2F906d2F907d2F908d2F909d2F90Ad2F90B
d2F90Cd2F90Dd2F90Ed2F90Fd2F910d2F911d2F912d2F913d2F914d2F915d2F916d2F917d2F918d2F919d2F91Ad2F91B
d2F91Cd2F91Dd2F91Ed2F91Fd2F920d2F921d2F922d2F923d2F924d2F925d2F926d2F927d2F928d2F929d2F92Ad2F92B
d2F92Cd2F92Dd2F92Ed2F92Fd2F930d2F931d2F932d2F933d2F934d2F935d2F936d2F937d2F938d2F939d2F93Ad2F93B
d2F93Cd2F93Dd2F93Ed2F93Fd2F940d2F941d2F942d2F943d2F944d2F945d2F946d2F947d2F948d2F949d2F94Ad2F94B
d2F94Cd2F94Dd2F94Ed2F94Fd2F950d2F951d2F952d2F953d2F954d2F955d2F956d2F957d2F958d2F959d2F95Ad2F95B
d2F95Cd2F95Dd2F95Ed2F95Fd2F960d2F961d2F962d2F963d2F964d2F965d2F966d2F967d2F968d2F969d2F96Ad2F96B
d2F96Cd2F96Dd2F96Ed2F96Fd2F970d2F971d2F972d2F973d2F974d2F975d2F976d2F977d2F978d2F979d2F97Ad2F97B
d2F97Cd2F97Dd2F97Ed2F97Fd2F980d2F981d2F982d2F983d2F984d2F985d2F986d2F987d2F988d2F989d2F98Ad2F98B
d2F98Cd2F98Dd2F98Ed2F98Fd2F990d2F991d2F992d2F993d2F994d2F995d2F996d2F997d2F998d2F999d2F99Ad2F99B
d2F99Cd2F99Dd2F99Ed2F99Fd2F9A0d2F9A1d2F9A2d2F9A3d2F9A4d2F9A5d2F9A6d2F9A7d2F9A8d2F9A9d2F9AAd2F9AB
d2F9ACd2F9ADd2F9AEd2F9AFd2F9B0d2F9B1d2F9B2d2F9B3d2F9B4d2F9B5d2F9B6d2F9B7d2F9B8d2F9B9d2F9BAd2F9BB
d2F9BCd2F9BDd2F9BEd2F9BFd2F9C0d2F9C1d2F9C2d2F9C3d2F9C4d2F9C5d2F9C6d2F9C7d2F9C8d2F9C9d2F9CAd2F9CB
d2F9CCd2F9CDd2F9CEd2F9CFd2F9D0d2F9D1d2F9D2d2F9D3d2F9D4d2F9D5d2F9D6d2F9D7d2F9D8d2F9D9d2F9DAd2F9DB
d2F9DCd2F9DDd2F9DEd2F9DFd2F9E0d2F9E1d2F9E2d2F9E3d2F9E4d2F9E5d2F9E6d2F9E7d2F9E8d2F9E9d2F9EAd2F9EB
d2F9ECd2F9EDd2F9EEd2F9EFd2F9F0d2F9F1d2F9F2d2F9F3d2F9F4d2F9F5d2F9F6d2F9F7d2F9F8d2F9F9d2F9FAd2F9FB
d2F9FCd2F9FDd2F9FEd2F9FFd2FA00d2FA01d2FA02d2FA03d2FA04d2FA05d2FA06d2FA07d2FA08d2FA09d2FA0Ad2FA0B
d2FA0Cd2FA0Dd2FA0Ed2FA0Fd2FA10d2FA11d2FA12d2FA13d2FA14d2FA15d2FA16d2FA17d2FA18d2FA19d2FA1Ad2FA1B
d2FA1Cd2FA1DdF900dF901dF902dF903dF904dF905dF906dF907dF908dF909dF90AdF90BdF90CdF90DdF90EdF90FdF910
dF911dF912dF913dF914dF915dF916dF917dF918dF919dF91AdF91BdF91CdF91DdF91EdF91FdF920dF921dF922dF923dF924
dF925dF926dF927dF928dF929dF92AdF92BdF92CdF92DdF92EdF92FdF930dF931dF932dF933dF934dF935dF936dF937dF938
dF939dF93AdF93BdF93CdF93DdF93EdF93FdF940dF941dF942dF943dF944dF945dF946dF947dF948dF949dF94AdF94BdF94C
dF94DdF94EdF94FdF950dF951dF952dF953dF954dF955dF956dF957dF958dF959dF95AdF95BdF95CdF95DdF95EdF95FdF960
dF961dF962dF963dF964dF965dF966dF967dF968dF969dF96AdF96BdF96CdF96DdF96EdF96FdF970dF971dF972dF973dF974
dF975dF976dF977dF978dF979dF97AdF97BdF97CdF97DdF97EdF97FdF980dF981dF982dF983dF984dF985dF986dF987dF988
dF989dF98AdF98BdF98CdF98DdF98EdF98FdF990dF991dF992dF993dF994dF995dF996dF997dF998dF999dF99AdF99BdF99C
dF99DdF99EdF99FdF9A0dF9A1dF9A2dF9A3dF9A4dF9A5dF9A6dF9A7dF9A8dF9A9dF9AAdF9ABdF9ACdF9ADdF9AEdF9AFdF9B0
dF9B1dF9B2dF9B3dF9B4dF9B5dF9B6dF9B7dF9B8dF9B9dF9BAdF9BBdF9BCdF9BDdF9BEdF9BFdF9C0dF9C1dF9C2dF9C3dF9C4
dF9C5dF9C6dF9C7dF9C8dF9C9dF9CAdF9CBdF9CCdF9CDdF9CEdF9CFdF9D0dF9D1dF9D2dF9D3dF9D4dF9D5dF9D6dF9D7dF9D8
dF9D9dF9DAdF9DBdF9DCdF9DDdF9DEdF9DFdF9E0dF9E1dF9E2dF9E3dF9E4dF9E5dF9E6dF9E7dF9E8dF9E9dF9EAdF9EBdF9EC
dF9EDdF9EEdF9EFdF9F0dF9F1dF9F2dF9F3dF9F4dF9F5dF9F6dF9F7dF9F8dF9F9dF9FAdF9FBdF9FCdF9FDdF9FEdF9FFdFA00
dFA01dFA02dFA03dFA04dFA05dFA06dFA07dFA08dFA09dFA0AdFA0BdFA0CdFA0DdFA0EdFA0FdFA10dFA11dFA12dFA13dFA14
dFA15dFA16dFA17dFA18dFA19dFA1AdFA1BdFA1CdFA1DdFA1EdFA1FdFA20dFA21dFA22dFA23dFA24dFA25dFA26dFA27dFA28
dFA29dFA2AdFA2BdFA2CdFA2DdFA2EdFA2FdFA30dFA31dFA32dFA33dFA34dFA35dFA36dFA37dFA38dFA39dFA3AdFA3BdFA3C
dFA3DdFA3EdFA3FdFA40dFA41dFA42dFA43dFA44dFA45dFA46dFA47dFA48dFA49dFA4AdFA4BdFA4CdFA4DdFA4EdFA4FdFA50
dFA51dFA52dFA53dFA54dFA55dFA56dFA57dFA58dFA59dFA5AdFA5BdFA5CdFA5DdFA5EdFA5FdFA60dFA61dFA62dFA63dFA64
dFA65dFA66dFA67dFA68dFA69dFA6AdFA6BdFA6CdFA6DdFA70dFA71dFA72dFA73dFA74dFA75dFA76dFA77dFA78dFA79dFA7A
dFA7BdFA7CdFA7DdFA7EdFA7FdFA80dFA81dFA82dFA83dFA84dFA85dFA86dFA87dFA88dFA89dFA8AdFA8BdFA8CdFA8DdFA8E
dFA8FdFA90dFA91dFA92dFA93dFA94dFA95dFA96dFA97dFA98dFA99dFA9AdFA9BdFA9CdFA9DdFA9EdFA9FdFAA0dFAA1dFAA2
dFAA3dFAA4dFAA5dFAA6dFAA7dFAA8dFAA9dFAAAdFAABdFAACdFAADdFAAEdFAAFdFAB0dFAB1dFAB2dFAB3dFAB4dFAB5dFAB6
dFAB7dFAB8dFAB9dFABAdFABBdFABCdFABDdFABEdFABFdFAC0dFAC1dFAC2dFAC3dFAC4dFAC5dFAC6dFAC7dFAC8dFAC9dFACA
dFACBdFACCdFACDdFACEdFACFdFAD0dFAD1dFAD2dFAD3dFAD4dFAD5dFAD6dFAD7dFAD8dFAD9bRADICAL BAMBOOcBLUE
cBOLT OF CLOTHcBONEcBOXcBRUSH ONEdTWOcC-SIMPLIFIED BIRDeCARTeDRAGONeEATeEVENeFISHeFLYeFROGeGATEeGOLD
eHORSEeLEAFeLONGeSALTeSEEeSHELLeSILKeSPEECHeTANNED LEATHEReTOOTHeTURTLEeWINDcCHOKEcCITYcCIVILIAN
cCLIFFcCLOTHEScCOWcDEATHcDIVINATIONcDOGcEAT ONEdTHREEdTWOcEWEcEYEcFIREcFOOTcGHOSTcGRASS ONEdTHREE
dTWOcHANDcHEADcHEART ONEdTWOcHORNcJ-SIMPLIFIED DRAGONeEVENeTOOTHeTURTLEcJADEcKNIFE ONEdTWOcLAME FOUR
dONEdTHREEdTWOcLONG ONEdTWOcMEATcMESHcMOONcMORTARcMOTHERcMOUND ONEdTWOcNET FOURdONEdTHREEdTWOcOLD
cPAW ONEdTWOcPERSONcRAINcRAMcRAPcREPEATcSEALcSECOND ONEdTHREEdTWOcSHEEPcSILK
cSIMPLIFIED HALF TREE TRUNKdHORNdWALKdWHEATdYELLOWcSMALL ONEdTWOcSNAKEcSNOUT ONEdTWOcSPIRIT ONEdTWO
cSUNcTABLEcTHREADcTIGERcTURTLEcWALK ONEdTWOcWATER ONEdTWOcWEST ONEdTWObSTROKE BXGcDcHcHGcHPcHPWG
cHXWGcHZcHZGcHZTcHZWcHZWGcHZZcHZZPcHZZZcHZZZGcNcPcPDcPGcPZcQcScSGcSPcSTcSWcSWGcSWZcSZcSZWGcSZZcTcTN
cWGcXGaCLAMSHELL MOBILE PHONEaCLAPPER BOARDaCLAPPING HANDS SIGNaCLASSICAL BUILDING
aCLEAR SCREEN SYMBOLaCLINKING BEER MUGSbGLASSESaCLIPBOARDaCLOCK FACE EIGHT OCLOCKcEIGHT-THIRTY
cELEVEN OCLOCKcELEVEN-THIRTYcFIVE OCLOCKcFIVE-THIRTYcFOUR OCLOCKcFOUR-THIRTYcNINE OCLOCKcNINE-THIRTY
cONE OCLOCKcONE-THIRTYcSEVEN OCLOCKcSEVEN-THIRTYcSIX OCLOCKcSIX-THIRTYcTEN OCLOCKcTEN-THIRTY
cTHREE OCLOCKcTHREE-THIRTYcTWELVE OCLOCKcTWELVE-THIRTYcTWO OCLOCKcTWO-THIRTY
aCLOCKWISE CLOSED CIRCLE ARROWbCONTOUR INTEGRALbDOWNWARDS AND UPWARDS OPEN CIRCLE ARROWS
bGAPPED CIRCLE ARROWbINTEGRALbOPEN CIRCLE ARROWbRIGHT AND LEFT SEMICIRCLE ARROWS
bRIGHTWARDS AND LEFTWARDS OPEN CIRCLE ARROWSgARROWS WITH CIRCLED ONE OVERLAYbTOP SEMICIRCLE ARROW
bTRIANGLE-HEADED OPEN CIRCLE ARROWaCLOSE UPaCLOSED BOOKbINTERSECTION WITH SERIFSbLOCK WITH KEY
bMAILBOX WITH LOWERED FLAGdRAISED FLAGbSUBSETbSUBSET OR EQUAL TObSUPERSETbSUPERSET OR EQUAL TO
bUMBRELLAbUNION WITH SERIFSdSERIFS AND SMASH PRODUCTaCLOUDaCLOUD WITH LIGHTNINGcRAINcSNOWcTORNADO
aCLOWN FACEaCOATaCOCKROACHaCOCKTAIL GLASSaCOCONUTaCOFFINaCOINaCOLLISION SYMBOLaCOLONaCOLON EQUALS
bSIGNaCOMBINING ACUTE ACCENTcACCENT BELOWcTONE MARKbACUTE-GRAVE-ACUTEcMACRONbALMOST EQUAL TO ABOVE
eBELOWbANNUITY SYMBOLbANTICLOCKWISE ARROW ABOVEcRING OVERLAYbASTERISK ABOVEcBELOWbBINDU BELOWbBREVE
bBREVE BELOWbBREVE-MACRONbBRIDGE ABOVEcBELOWbCANDRABINDUbCARONbCARON BELOWbCEDILLAbCIRCUMFLEX ACCENT
cACCENT BELOWbCLOCKWISE ARROW ABOVEcRING OVERLAYbCOMMA ABOVEcABOVE RIGHTcBELOWbCONJOINING MACRON
cMACRON BELOWbCYRILLIC DASIA PNEUMATAcHUNDRED MILLIONS SIGNdTHOUSANDS SIGNcKAVYKAcLETTER AdBE
dBIG YUSdCHEdDEdDJERVdEFdELdEMdENdERdESdES-TEdFITAdGHEdHAdHARD SIGNdIdIEdIOTIFIED AeBIG YUSeEdKA
dLITTLE YUSdMONOGRAPH UKdOdOMEGAdPEdSHAdSHCHAdSOFT SIGNdTEdTSEdUdUKRAINIAN IEdVEdYATdYERUdYIdYUdZE
dZHEcMILLIONS SIGNcPALATALIZATIONcPAYEROKcPOKRYTIEcPSILI PNEUMATAcTEN MILLIONS SIGN
cTHOUSAND MILLIONS SIGNcTITLOcTITLO LEFT HALFdRIGHT HALFcVZMETbDELETION MARKbDEVANAGARI DIGIT EIGHT
dFIVEdFOURdNINEdONEdSEVENdSIXdTHREEdTWOdZEROcLETTER AdKAdNAdPAdRAdUdVIcSIGN AVAGRAHAbDIAERESIS
bDIAERESIS BELOWbDIAERESIS-RINGbDOT ABOVEcABOVE LEFTdRIGHTcBELOWcBELOW LEFTbDOTTED ACUTE ACCENT
cGRAVE ACCENTbDOUBLE ACUTE ACCENTcBREVEcBREVE BELOWcCIRCUMFLEX ABOVEcGRAVE ACCENTcINVERTED BREVE
dBREVE BELOWcLOW LINEcMACRONcMACRON BELOWcOPEN MARK BELOWcOVERLINEcPARENTHESES ABOVEcPLUS SIGN ABOVE
eBELOWcRIGHTWARDS ARROW BELOWcRING BELOWcTILDEcTILDE LEFT HALFdRIGHT HALFcVERTICAL LINE ABOVEeBELOW
dSTROKE OVERLAYbDOUBLED CIRCUMFLEX ACCENTbDOWN TACK BELOWbDOWNWARDS ARROWbENCLOSING CIRCLE
cCIRCLE BACKSLASHcDIAMONDcKEYCAPcSCREENcSQUAREcUPWARD POINTING TRIANGLEbEQUALS SIGN BELOWbFERMATA
bFOUR DOTS ABOVEbGLAGOLITIC LETTER AZUdBIG YUSdBUKYdCHRIVIdDJERVIdDOBROdFITAdFRITUdGLAGOLIdHERUdI
dINITIAL IZHEdIOTATED BIG YUSeSMALL YUSdIZHEdKAKOdLJUDIJEdMYSLITEdNASHIdONUdPOKOJIdRITSIdSHAdSHTA
dSLOVOdSMALL YUSdTSIdTVRIDOdUKUdVEDEdYATIdYERIdYERUdYESTUdYOdYUdZEMLJAdZHIVETEbGRANTHA DIGIT FIVE
dFOURdONEdSIXdTHREEdTWOdZEROcLETTER AdKAdNAdPAdVIbGRAPHEME JOINERbGRAVE ACCENTcACCENT BELOW
cTONE MARKbGRAVE-ACUTE-GRAVEcMACRONbGREEK DIALYTIKA TONOScKORONIScMUSICAL PENTASEMEdTETRASEME
dTRISEMEcPERISPOMENIcYPOGEGRAMMENIbHOMOTHETIC ABOVEbHOOK ABOVEbHORNbINFINITYbINVERTED BREVE
cBREVE BELOWcBRIDGE BELOWcDOUBLE ARCH ABOVEeBELOWbIS BELOWbKATAKANA-HIRAGANA SEMI-VOICED SOUND MARK
dVOICED SOUND MARKbKAVYKA ABOVE LEFTdRIGHTbLATIN LETTER SMALL CAPITAL GfLfMfNfRcSMALL LETTER A
eA WITH DIAERESISeAEeALPHAeAOeAVeBeBETAeCeC CEDILLAeDeEeESHeETHeFeFLATTENED OPEN A ABOVEeGeHeI
eINSULAR DfGfRfTeKeLeL WITH DOUBLE MIDDLE TILDEeLONG SeMeNeOeO WITH DIAERESIS
gLIGHT CENTRALIZATION STROKEePeReR BELOWfROTUNDAeSeSCHWAeTeTURNED W BELOWeUeU WITH DIAERESIS
gLIGHT CENTRALIZATION STROKEeVeWeW BELOWeXeZbLEFT ANGLE ABOVEdBELOWcARROW ABOVEdBELOW
cARROWHEAD ABOVEdBELOWcHALF RING ABOVEeBELOWcHARPOON ABOVEcPARENTHESIS ABOVE LEFTdBELOW LEFT
cRIGHT ARROW ABOVEeBELOWcTACK BELOWbLEFTWARDS ARROW OVERLAYcHARPOON WITH BARB DOWNWARDS
bLIGATURE LEFT HALFdHALF BELOWcRIGHT HALFdHALF BELOWbLIGHT CENTRALIZATION STROKE BELOW
bLONG DOUBLE SOLIDUS OVERLAYcSOLIDUS OVERLAYcSTROKE OVERLAYcVERTICAL LINE OVERLAYbLOW LINEbMACRON
bMACRON BELOWcLEFT HALFdHALF BELOWcRIGHT HALFdHALF BELOWbMACRON-ACUTEcBREVEcGRAVEbMINUS SIGN BELOW
bNOT TILDE ABOVEbNUMBER SIGN ABOVEbOGONEKbOGONEK ABOVEbOLD PERMIC LETTER ANeDOIeNENOEeSIIeZATA
bOPEN MARK BELOWbOVERLINEbPALATALIZED HOOK BELOWbPARENTHESES ABOVEcBELOWcOVERLAYbPLUS SIGN ABOVE
dBELOWbRETROFLEX HOOK BELOWbREVERSE SOLIDUS OVERLAYbREVERSED COMMA ABOVEbRIGHT ARROW ABOVEdBELOW
cARROWHEAD ABOVEdAND DOWN ARROWHEAD BELOWeUP ARROWHEAD BELOWdBELOWcHALF RING ABOVEeBELOW
cHARPOON ABOVEcPARENTHESIS ABOVE RIGHTdBELOW RIGHTcTACK BELOWbRIGHTWARDS HARPOON WITH BARB DOWNWARDS
bRING ABOVEcBELOWcOVERLAYbSEAGULL BELOWbSHORT SOLIDUS OVERLAYcSTROKE OVERLAYcVERTICAL LINE OVERLAY
bSNAKE BELOWbSQUARE BELOWcBRACKETS ABOVEbSTRONG CENTRALIZATION STROKE BELOWbSUSPENSION MARK
bTHREE DOTS ABOVEbTILDEbTILDE BELOWcLEFT HALF BELOWcOVERLAYcRIGHT HALF BELOWbTRIPLE ACUTE ACCENTcDOT
cUNDERDOTbTURNED COMMA ABOVEbUP TACK ABOVEdBELOWbUPWARDS ARROW BELOWbUR ABOVEbUS ABOVE
bVERTICAL LINE ABOVEdBELOWcTILDEbWIDE BRIDGE ABOVEcINVERTED BRIDGE BELOWbWIGGLY LINE BELOWbX ABOVE
cBELOWbX-X BELOWbZIGZAG ABOVEcBELOWaCOMETaCOMMAaCOMMERCIAL ATbMINUS SIGNaCOMPASSaCOMPLEMENT
aCOMPOSITION SYMBOLaCOMPRESSIONaCONFETTI BALLaCONFOUNDED FACEaCONFUSED FACEaCONGRUENT WITH DOT ABOVE
aCONICAL TAPERaCONJUNCTIONaCONSTRUCTION SIGNbWORKERaCONTAINS AS MEMBERcNORMAL SUBGROUP
dSUBGROUP OR EQUAL TObWITH LONG HORIZONTAL STROKEcOVERBARcVERTICAL BAR AT END OF HORIZONTAL STROKE
aCONTINUOUS UNDERLINE SYMBOLaCONTOUR INTEGRALaCONTROL KNOBSbSEQUENCE INTRODUCERaCONVENIENCE STORE
aCOOKED RICEaCOOKIEaCOOKINGaCOPTIC CAPITAL LETTER AKHMIMIC KHEIdALFAdBOHAIRIC KHEIdCROSSED SHEI
dCRYPTOGRAMMIC EIEeGANGIAeNIeSHEIdDALDAdDEIdDIALECT-P ALEFfHORIfKAPAfNIdEIEdFEIdFIdGAMMAdGANGIAdHATE
dHORIdIAUDAdKAPAdKHEIdKHIdKSIdL-SHAPED HAdLAULAdMIdNIdOdOLD COPTIC AINfDJAfESHfGANGIAfHAfHATfHEI
fHORIfOOUfSHEIfSHIMAeNUBIAN NGIfNYIfSHIMAfWAUdOOUdPIdPSIdROdSAMPIdSHEIdSHIMAdSIMAdSOUdTAUdTHETHEdUA
dVIDAdZATAbCOMBINING NI ABOVEcSPIRITUS ASPERdLENISbEPACT DIGIT EIGHTdFIVEdFOURdNINEdONEdSEVENdSIX
dTHREEdTWOcNUMBER EIGHT HUNDREDdEIGHTYdFIFTYdFIVE HUNDREDdFORTYdFOUR HUNDREDdNINE HUNDREDdNINETY
dONE HUNDREDdSEVEN HUNDREDdSEVENTYdSIX HUNDREDdSIXTYdTENdTHIRTYdTHREE HUNDREDdTWENTYdTWO HUNDRED
cTHOUSANDS MARKbFRACTION ONE HALFbFULL STOPbMORPHOLOGICAL DIVIDERbOLD NUBIAN DIRECT QUESTION MARK
dFULL STOPdINDIRECT QUESTION MARKdVERSE DIVIDERbSMALL LETTER AKHMIMIC KHEIdALFAdBOHAIRIC KHEI
dCROSSED SHEIdCRYPTOGRAMMIC EIEeGANGIAeNIeSHEIdDALDAdDEIdDIALECT-P ALEFfHORIfKAPAfNIdEIEdFEIdFI
dGAMMAdGANGIAdHATEdHORIdIAUDAdKAPAdKHEIdKHIdKSIdL-SHAPED HAdLAULAdMIdNIdOdOLD COPTIC AINfDJAfESH
fGANGIAfHAfHATfHEIfHORIfOOUfSHEIfSHIMAeNUBIAN NGIfNYIfSHIMAfWAUdOOUdPIdPSIdROdSAMPIdSHEIdSHIMAdSIMA
dSOUdTAUdTHETHEdUAdVIDAdZATAbSYMBOL KAIcKHI ROcMI ROcPI ROcSHIMA SIMAcSTAUROScTAU ROaCOPYLEFT SYMBOL
aCOPYRIGHT SIGNaCORALaCORNISH VERSE DIVIDERaCORRESPONDS TOaCOUCH AND LAMPaCOUNTERBOREaCOUNTERSINK
aCOUNTING ROD TENS DIGIT EIGHTeFIVEeFOUReNINEeONEeSEVENeSIXeTHREEeTWOcUNIT DIGIT EIGHTeFIVEeFOUR
eNINEeONEeSEVENeSIXeTHREEeTWOaCOUPLE WITH HEARTaCOWaCOW FACEaCRaCRABaCREDIT CARDaCRESCENT MOON
aCRICKETaCRICKET BAT AND BALLaCROCODILEaCROISSANTaCROSS MARKbOF JERUSALEMcLORRAINE
bPATTY WITH LEFT CROSSBARdRIGHT CROSSBARbPOMMEEbPOMMEE WITH HALF-CIRCLE BELOWaCROSSED FLAGS
bNEGATIVE SQUARED LATIN CAPITAL LETTER PbSWORDSaCROSSING LANESaCROWNaCRUTCHaCRUZEIRO SIGN
aCRYING CAT FACEbFACEaCRYSTAL BALLaCSIaCUBE ROOTaCUCUMBERaCUNEIFORM NUMERIC SIGN EIGHT ASHeDISH
eGESH2eSHAR2eUeU VARIANT FORMeVARIANT FORM USSUgUSSU3dELAMITE FIFTYeFORTYeONE THIRDeTWO THIRDS
dFIVE ASHeASH TENUeBAN2eBAN2 VARIANT FORMeBURUeDISHeGESH2eGESHUeSHAR2eSHARUeSIXTHS DISHeU
eU VARIANT FORMdFOUR ASHeASH TENUeBAN2eBAN2 VARIANT FORMeBURUeDISHeGESH2eGESHUeSHAR2eSHARUeU
eU VARIANT FORMeVARIANT FORM LIMMUgLIMMU AhBgLIMMU4dNIGIDAESHdNIGIDAMINdNINE ASHeDISHeGESH2eSHAR2eU
eU VARIANT FORMeVARIANT FORM ILIMMUgILIMMU AgILIMMU3gILIMMU4dOLD ASSYRIAN ONE QUARTERgSIXTHdONE BAN2
eBURUeEIGHTH ASHeESHE3eGESH2eGESHUeHALF GUReQUARTER ASHfGUReSHARUeTHIRD DISHfVARIANT FORM A
dSEVEN ASHeDISHeGESH2eSHAR2eUeU VARIANT FORMeVARIANT FORM IMIN AhBgIMIN3dSHAR2 TIMES GAL PLUS DISH
hMINdSIX ASHeASH TENUeDISHeGESH2eSHAR2eUeU VARIANT FORMeVARIANT FORM ASH9dTHREE ASHeASH TENUeBAN2
eBURUeBURU VARIANT FORMeDISHeGESH2eGESHUeSHAR2eSHAR2 VARIANT FORMeSHARUeSHARU VARIANT FORM
eVARIANT FORM ESH16gESH21dTWO ASHeASH TENUeBAN2eBURUeESHE3eGESH2eGESHUeSHAR2eSHARUeTHIRDS DISH
fVARIANT FORM AbPUNCTUATION SIGN DIAGONAL COLONeQUADCOLONeTRICOLONdOLD ASSYRIAN WORD DIVIDER
dVERTICAL COLONbSIGN AcA TIMES AeBADeGAN2 TENUeHAeIGIeLAGAR GUNUeMUSHeSAGcA2cABcAB GUNUdTIMES ASH2
eDUN3 GUNUeGALeGAN2 TENUeHAeIGI GUNUeIMINeLAGABeNUNeNUN TENUeSHESHeSHU2eU PLUS U PLUS UcAB2
cAB2 TIMES AeBALAGeGAN2 TENUeME PLUS ENeSHA3eTAK4cADcAD TIMES ESH2cAKcAK TIMES ERIN2eSHITA PLUS GISH
cALcAL TIMES ALeDIM2eGISHeHAeKAD3eKIeSHEeUSHcALANcALEPHcAMARcAMAR TIMES KUGeSHEcANcAN OVER AN
dPLUS NAGA OPPOSING AN PLUS NAGAfSQUAREDdTHREE TIMEScANSHEcAPINcARADcARAD TIMES KURcARKABcASAL2cASH
cASH KABA TENUdOVER ASH OVER ASHgASH CROSSING ASH OVER ASH OVER ASH
fTUG2 OVER TUG2 TUG2 OVER TUG2 PAPdZIDA TENUcASH2cASHGABcBAcBADcBAD TIMES DISH TENUcBAG3cBAHAR2
cBAHAR2 TIMES AB2eNIeZAcBALcBAL OVER BALcBALAGcBARcBARA2cBIcBI TIMES AeGAReIGI GUNUcBU
cBU CROSSING BUdOVER BU ABfTIMES NA2fUNcBULUGcBULUG OVER BULUGcBURcBUR2cDAcDA TIMES TAK4cDAG
cDAG KISIM5 TIMES A PLUS MASHfAMARfBALAGfBIfGAfGA PLUS MASHfGIfGIR2fGUDfHAfIRfIR PLUS LUfKAKfLAfLU
fLU PLUS MASH2fLUMfNEfPAP PLUS PAPfSIfTAK4fU2 PLUS GIR2hMASHfUSHdTIMES KURcDAG3cDAMcDARcDARA3cDARA4
cDIcDIBcDIMcDIM TIMES IGIeSHEeU U UcDIM2cDIM2 TIMES UDcDINcDIN KASKAL U GUNU DISHcDISHcDISH PLUS SHU
cDUcDU GUNUdOVER DUdSHESHIGcDUBcDUB TIMES ESH2eSHEcDUB2cDUGcDUG TIMES ANSHEeASHeASH AT LEFTeDINeDUN
eERIN2eGAeGIeGIR2 GUNUeGISHeHAeHIeIGI GUNUeKASKALeKUReKUSHU2eKUSHU2 PLUS KASKALeLAK-020eLAM
eLAM TIMES KUReLUH PLUS GISHeMASHeMESeMIeNIePIeSHEeSI GUNUcDUGUDcDUHcDUNcDUN3cDUN3 GUNUdGUNU GUNU
cDUN4cDUR2cEcE OVER E NUN OVER NUNdTIMES PAPcE2cE2 TIMES A PLUS HA PLUS DAeGAReKUReMIePAPeSALeSHEeU
cEDINcEGIRcELcENcEN CROSSING ENdOPPOSING ENdSQUAREDdTIMES GAN2eGAN2 TENUeMEcERENcERIN2cERIN2 XcESH2
cESH2 CROSSING ESH2cEZENcEZEN SHESHIG TIMES ASHfHIfIGI GUNUfLAfLALfMEfMESfSUdTIMES AeA PLUS LAL
gLAL TIMES LALeANeBADeDUN3 GUNUfGUNU GUNUeGUDeHAeHA GUNUeIGI GUNUeKASKALeKASKAL SQUAREDeKU3eLA
eLAL TIMES LALeLIeLUeSHEeSUeU2eUDcGAcGA GUNUcGA2cGA2 OVER GA2dTIMES A PLUS DA PLUS HAgHAgIGI
eAB2 TENU PLUS TABeANeAN PLUS KAK PLUS AeASHeASH2eASH2 PLUS GALeBADeBAHAR2eBAR PLUS RAeBUR
eBUR PLUS RAeDAeDIeDIM GUNUfTIMES SHEeDUBeDUG TIMES IGI GUNUgKASKALeELeEL PLUS LAeEN
eEN TIMES GAN2 TENUeERENeGAeGAN2 TENUeGAReGAR PLUS DIgNEeGIeGI4eGI4 PLUS AeGIR2 PLUS SUeHA PLUS A
gLU PLUS ESH2eHALeHAL PLUS LAeHI PLUS LIeHUB2eIGI GUNUeISH PLUS HU PLUS ASHeKAKeKASKALeKID
eKID PLUS LALeKU3 PLUS ANeKUSHU2 PLUS KASKALeLAeLAMeLAM TIMES KUReLUHeME PLUS ENeMIeMUSHeNE
eNE PLUS E2gGIeNUNeNUN OVER NUNePAeSALeSAReSHEeSHE PLUS TUReSHIDeSHIMeSUMeTAK4eUeUDeUD PLUS DUeZIZ2
cGABAcGABA CROSSING GABAdROTATED NINETY DEGREEScGADcGAD OVER GAD GAR OVER GARcGAL
cGAL GAD OVER GAD GAR OVER GARcGALAMcGAMcGANcGAN2cGAN2 CROSSING GAN2dOVER GAN2dTENUcGARcGAR3cGASHAN
cGE22cGESHTINcGESHTIN TIMES KUReUcGIcGI CROSSING GIdTIMES EeUcGI4cGI4 CROSSING GI4dOVER GI4cGIDIM
cGIGcGIR2cGIR2 GUNUcGIR3cGIR3 TIMES A PLUS IGIeGAN2 TENUeIGIeLU PLUS IGIePAcGISALcGISH
cGISH CROSSING GISHdTENUdTIMES BADeGISH CROSSING GISHeTAK4cGUcGU CROSSING GUcGU2cGU2 GUNU
dTIMES IGI GUNUeKAKeKAK TIMES IGI GUNUeNUNeSAL PLUS TUG2cGUDcGUD OVER GUD LUGALdPLUS GISH TIMES TAK4
dTIMES A PLUS KUReKURcGULcGUMcGUM TIMES SHEcGURcGUR7cGURUNcGURUSHcHAcHA GUNUdTENUdTENU GUNUcHALcHI
cHI TIMES ASHeASH OVER HI TIMES ASHeASH2eBADeDISHeGADeKINeNUNeSHEeUcHUcHUB2cHUB2 TIMES ANeHALeKASKAL
eLISHeUDcHUL2cHUSHcIcI AcIBcIDIMcIDIM OVER IDIM BURfSQUAREDcIGcIGIcIGI DIBdGUNU
dOVER IGI SHIR OVER SHIR UD OVER UDdRIcILcIL TIMES GAN2 TENUcIL2cIMcIM CROSSING IMdOPPOSING IM
dSQUAREDdTIMES TAK4cIMINcINcIRcISHcKAcKA TIMES AeADeAD PLUS KU3eANSHEeASH2eASH3eBADeBALAGeBAReBIeBU
eERIN2eESH2eGAeGALeGAN2 TENUeGAReGAR PLUS SHA3 PLUS AeGIeGIR2eGISHeGISH CROSSING GISHfPLUS SAReGU
eGUDeGUR7eHI TIMES ASH2eIGIeIMeKAeKAKeKIeKIDeLIeLUeLUMeMEeME PLUS DUgGIgTEeMIeMI PLUS NUNUZeNEeNUN
ePAePIeRUeSAeSAReSHAeSHEeSHIDeSHUeSHULeSIGeSUHUReTAReTUeUeU U UeU2eUDeUMUM TIMES PAeUReUR2eUSHeZI
cKA2cKA2 CROSSING KA2cKABcKAD2cKAD3cKAD4cKAD5cKAD5 OVER KAD5cKAKcKAK TIMES IGI GUNUcKAL
cKAL CROSSING KALdTIMES BADcKAM2cKAM4cKAP ELAMITEcKASKALcKASKAL LAGAB TIMES U OVER LAGAB TIMES U
dOVER KASKAL LAGAB TIMES U OVER LAGAB TIMES UcKESH2cKIcKI TIMES BADeUeUDcKIDcKINcKISALcKISHcKISIM5
cKISIM5 OVER KISIM5cKUcKU OVER HI TIMES ASH2 KU OVER HI TIMES ASH2cKU3cKU4cKU4 VARIANT FORMcKU7cKUL
cKUL GUNUcKUNcKURcKUR OPPOSING KURcKUSHU2cKWU318cLAcLAGABcLAGAB SQUAREDdTIMES AeA PLUS DA PLUS HA
gGARgLALeALeANeASH ZIDA TENUeBADeBIeDAReENeGAeGAReGIeGUDeGUD PLUS GUDeHAeHALeHI TIMES NUNeIGI GUNU
eIMeIM PLUS HAgLUeKIeKINeKU3eKULeKUL PLUS HI PLUS AeLAGABeLISHeLUeLULeMEeME PLUS ENeMUSHeNE
eSHE PLUS SUMeSHITA PLUS GISH PLUS ERIN2hTENUeSHU2eSHU2 PLUS SHU2eSUMeTAGeTAK4
eTE PLUS A PLUS SU PLUS NAeUeU PLUS AgU PLUS UeU2 PLUS ASHeUDeUSHeZU OVER ZUcLAGARcLAGAR GUNU
dGUNU OVER LAGAR GUNU SHEdTIMES SHEeSHE PLUS SUMcLAHSHUcLAK-003d021d025d030d050d051d062
d079 OVER LAK-079 GUNUd080d081 OVER LAK-081d092d130d142d210d219d220d225d228d238d265d266d343d347d348
d383d384d390d441d449d449 TIMES GUfIGIfPAP PLUS LU3hPAP PLUS LU3fU2 PLUS BAd450d457d470d483d490d492
d493d495d550d608d617d617 TIMES ASHfBADfDUN3 GUNU GUNUfKU3fLAfTARfTEfU2fUDfURUDAd636d648
d648 TIMES DUBfGAfIGIfIGI GUNUfNIfPAP PLUS PAP PLUS LU3fSHESH PLUS KIfUDfURUDAd724d749cLAL
cLAL TIMES LALcLAMcLAM TIMES KUReKUR PLUS RUcLIcLILcLIMMU2cLISHcLUcLU TIMES BADcLU2cLU2 CROSSING LU2
dGUNU TIMES ASHdOPPOSING LU2dSHESHIGdSHESHIG TIMES BADdSQUAREDdTENUdTIMES ALeBADeDISHeESH2
eESH2 PLUS LALfTENUeGAN2 TENUeHALeHI TIMES BADeIMeKAD2eKAD3eKAD3 PLUS ASHeKIeLA PLUS ASHeLAGAB
eME PLUS ENeNEeNUePAPePAP PLUS PAP PLUS LU3eSHUeSI PLUS ASHeSIK2 PLUS BUeTAK4eTUG2cLU3cLUGAL
cLUGAL OPPOSING LUGALdOVER LUGALdSHESHIGcLUHcLULcLUMcLUM OVER LUMeLUM GAR OVER GARcMAcMA GUNU
dTIMES TAK4cMA2cMAHcMARcMASHcMASH2cMEcMEScMESHcMIcMI PLUS ZA7cMINcMUcMU OVER MUcMUGcMUG GUNUcMUNSUB
cMURGU2cMUSHcMUSH CROSSING MUSHdOVER MUSHeMUSH TIMES A PLUS NAgGAgKAKdTIMES AeKUReZAcMUSH3
cMUSH3 GUNUdTIMES AeA PLUS DIeDIeZAcNAcNA2cNA4cNAGAcNAGA INVERTEDdOPPOSING NAGAdTIMES SHU TENUcNAGAR
cNAMcNAM NUTILLUcNAM2cNEcNE SHESHIGdTIMES AeUDcNIcNI TIMES EcNI2cNIMcNIM TIMES GAN2 TENU
eGAR PLUS GAN2 TENUcNINcNIN9cNINDA2cNINDA2 TIMES ANeASHeASH PLUS ASHeBALeDIM GUNUeGIeGISHeGUDeGULeHI
eKESH2eLAK-050eMASHeME PLUS GAN2 TENUeNEeNUNePAP PLUS PAPeSHEeSHE PLUS A ANgASHgASH PLUS ASHeU
eU PLUS UeU2 PLUS ASHeURUDAeUSHcNISAGcNUcNU11cNU11 OVER NU11 BUR OVER BURdROTATED NINETY DEGREES
dTENUcNUNcNUN CROSSING NUNeNUN LAGAR OVER LAGARdLAGAR TIMES GARfMASHfSAL
fSAL OVER NUN LAGAR TIMES SALfUSHdOVER NUNdTENUcNUNUZcNUNUZ AB2 TIMES ASHGABfBIfDUGfGUDfIGI GUNU
fKAD3fLAfNEfSILA3fU2dKISIM5 TIMES BIfBI UcPAcPADcPANcPAPcPESH2cPESH2 ASTERISKcPIcPI CROSSING PI
dTIMES AeABeBIeBUeEeIeIBeUeU2cPIR2cPIRIGcPIRIG OPPOSING PIRIGdTIMES KALeUDeZAcRAcRABcRIcRUcSAcSAG
cSAG GUNUdGUNU TIMES HAdNUTILLUdOVER SAGdTIMES AeDUeDUBeENeHAeIGI GUNUeKAKeKUReLUMeMIeNUNeSAL
eSHE AT LEFTeSHIDeTABeTAK4eU2eUBeUMeUReUSHcSALcSAL LAGAB TIMES ASH2cSANGA2cSARcSHAcSHA3cSHA3 TIMES A
eBADeGISHeNEeSHU2eTUReUeU PLUS AcSHA6cSHA6 TENUcSHAB6cSHAR2cSHEcSHE HUdOVER SHE
eSHE GAD OVER GAD GAR OVER GARfTAB OVER TAB GAR OVER GARdPLUS HUB2eNAM2eSARcSHEG9cSHENcSHESHcSHESH2
cSHESHLAMcSHIDcSHID TIMES AeIMcSHIMcSHIM TIMES AeBALeBULUGeDINeGAReIGIeIGI GUNUeKUSHU2eLULeMUGeSAL
cSHINIGcSHIRcSHIR OVER SHIR BUR OVER BURdTENUcSHITAcSHUcSHU OVER INVERTED SHUcSHU2
cSHU2 PLUS DUG TIMES NIeE2 TIMES ANcSHUBURcSIcSI GUNUdTIMES TAK4cSIGcSIG4cSIG4 OVER SIG4 SHU2cSIK2
cSILA3cSUcSU OVER SUcSUDcSUD2cSUHURcSUMcSUMASHcSURcSUR9cTAcTA ASTERISKdGUNUdTIMES HIeMIcTAB
cTAB OVER TAB NI OVER NI DISH OVER DISHdSQUAREDcTAGcTAG TIMES BIeGUDeSHEeSHUeTUG2eUDcTAK4
cTAK4 PLUS SAGcTARcTEcTE GUNUcTIcTI TENUcTI2cTILcTIRcTIR OVER TIReTIR GAD OVER GAD GAR OVER GAR
dTIMES TAK4cTUcTUG2cTUKcTUMcTUM TIMES GAN2 TENUeTHREE DISHcTURcTUR OVER TUR ZA OVER ZAcUcU GUD
dOVER U PA OVER PA GAR OVER GARfSUR OVER SURfU REVERSED OVER U REVERSEDdUdU UcU2cUBcUDcUD GUNU
dKUSHU2dSHESHIGdSHESHIG TIMES BADdTIMES BADeMIeU PLUS U PLUS UiU GUNUcUDUGcUMcUM TIMES LAGABeME
eME PLUS DAeSHA3eUcUMBINcUMUMcUMUM TIMES KASKALePAcUNcUN GUNUcURcUR CROSSING URdSHESHIGcUR2
cUR2 INVERTEDdTIMES A PLUS HAgNAeALeHAeNUNeU2eU2 PLUS ASHgBIeUDcUR4cURIcURI3cURUcURU TIMES AeASHGAB
eBAReDARA3eDUNeGAeGALeGAN2 TENUeGAReGUeHAeIGIeIMeISHeKIeLAK-668eLU3eLUMeMINePAeSHEeSIG4eTU
eU PLUS GUDeUDeURUDAcURUDAcURUDA TIMES UcUSHcUSH TIMES AeKUeKUReTAK4cUSH2cUSHUMXcUSHXcUTUKIcUZ3
cUZ3 TIMES KASKALcUZUcZAcZA SQUARED TIMES KURdTENUcZA7cZAGcZAMXcZE2cZIcZI OVER ZIcZI3cZIB
cZIB KABA TENUcZIGcZIZ2cZUcZU OVER ZU PLUS SARcZU5cZU5 TIMES AeTHREE DISH TENUcZUBURcZUM
aCUP ON BLACK SQUAREbWITH STRAWaCUPCAKEaCUPIDOaCURLING STONEaCURLY BRACKET EXTENSIONbLOGICAL ANDcOR
bLOOPaCURRENCY EXCHANGEbSIGNaCURRY AND RICEaCURVED STEM PARAGRAPH SIGN ORNAMENTaCUSTARDaCUSTOMS
aCUT OF MEATaCYCLONEaCYLINDRICITYaCYPRIOT SYLLABLE AcEcIcJAcJOcKAcKEcKIcKOcKUcLAcLEcLIcLOcLUcMAcME
cMIcMOcMUcNAcNEcNIcNOcNUcOcPAcPEcPIcPOcPUcRAcREcRIcROcRUcSAcSEcSIcSOcSUcTAcTEcTIcTOcTUcUcWAcWEcWIcWO
cXAcXEcZAcZOaCYPRO-MINOAN SIGN CM001dCM002dCM004dCM005dCM006dCM007dCM008dCM009dCM010dCM011dCM012
dCM012BdCM013dCM015dCM017dCM019dCM021dCM023dCM024dCM025dCM026dCM027dCM028dCM029dCM030dCM033dCM034
dCM035dCM036dCM037dCM038dCM039dCM040dCM041dCM044dCM046dCM047dCM049dCM050dCM051dCM052dCM053dCM054
dCM055dCM056dCM058dCM059dCM060dCM061dCM062dCM063dCM064dCM066dCM067dCM068dCM069dCM070dCM071dCM072
dCM073dCM074dCM075dCM075BdCM076dCM078dCM079dCM080dCM081dCM082dCM083dCM084dCM085dCM086dCM087dCM088
dCM089dCM090dCM091dCM092dCM094dCM095dCM096dCM097dCM098dCM099dCM100dCM101dCM102dCM103dCM104dCM105
dCM107dCM108dCM109dCM110dCM112dCM114dCM301dCM302aCYRILLIC CAPITAL LETTER AdA WITH BREVEfDIAERESIS
dABKHASIAN CHEeCHE WITH DESCENDEReDZEeHAdALEUT KAdBARRED OeO WITH DIAERESISdBASHKIR KAdBEdBIG YUS
dBINOCULAR OdBLENDED YUSdBROAD OMEGAdBYELORUSSIAN-UKRAINIAN IdCCHEdCHEdCHE WITH DESCENDERfDIAERESIS
fVERTICAL STROKEdCLOSED LITTLE YUSdCROSSED OdDCHEdDEdDJEdDJERVdDOUBLE MONOCULAR OeOdDWEdDZEdDZELO
dDZHEdDZWEdDZZEdDZZHEdEdE WITH DIAERESISdEFdELdEL WITH DESCENDERfHOOKfMIDDLE HOOKfTAILdEM
dEM WITH TAILdENdEN WITH DESCENDERfHOOKfLEFT HOOKfMIDDLE HOOKfTAILdERdER WITH TICKdES
dES WITH DESCENDERdFITAdGHEdGHE WITH DESCENDERfMIDDLE HOOKfSTROKEfSTROKE AND HOOKfUPTURNdGJEdHA
dHA WITH DESCENDERfHOOKfSTROKEdHARD SIGNdHWEdIdI WITH DIAERESISfGRAVEfMACRONdIEdIE WITH BREVEfGRAVE
dIOdIOTAdIOTIFIED AeBIG YUSeCLOSED LITTLE YUSeEeLITTLE YUSeYATdIZHITSA
dIZHITSA WITH DOUBLE GRAVE ACCENTdJEdKAdKA WITH DESCENDERfHOOKfSTROKEfVERTICAL STROKEdKHAKASSIAN CHE
dKJEdKOMI DEeDJEeDZJEeLJEeNJEeSJEeTJEeZJEdKOPPAdKSIdLHAdLITTLE YUSdLJEdMONOCULAR OdMONOGRAPH UK
dNEUTRAL YERdNJEdOdO WITH DIAERESISdOMEGAdOMEGA WITH TITLOdOTdPEdPE WITH DESCENDERfMIDDLE HOOKdPSI
dQAdREVERSED DZEeTSEeYUeZEdRHAdROUND OMEGAdSCHWAdSCHWA WITH DIAERESISdSEMISOFT SIGNdSHAdSHCHAdSHHA
dSHHA WITH DESCENDERdSHORT IeI WITH TAILeUdSHWEdSOFT DEeELeEMeSIGNdSTRAIGHT UeU WITH STROKEdTCHEdTE
dTE WITH DESCENDERfMIDDLE HOOKdTSEdTSHEdTSSEdTSWEdTWEdUdU WITH DIAERESISfDOUBLE ACUTEfMACRONdUK
dUKRAINIAN IEdVEdWEdYAdYAEdYATdYERUdYERU WITH BACK YERfDIAERESISdYIdYNdYUdZEdZE WITH DESCENDER
fDIAERESISdZEMLYAdZHEdZHE WITH BREVEfDESCENDERfDIAERESISdZHWEcLIGATURE A IEdEN GHEdTE TSEbKAVYKA
bLETTER MULTIOCULAR OcPALOCHKAcSMALL CAPITAL ELbPAYEROKbSMALL LETTER AdA WITH BREVEfDIAERESIS
dABKHASIAN CHEeCHE WITH DESCENDEReDZEeHAdALEUT KAdBARRED OeO WITH DIAERESISdBASHKIR KAdBEdBIG YUS
dBINOCULAR OdBLENDED YUSdBROAD OMEGAdBYELORUSSIAN-UKRAINIAN IdCCHEdCHEdCHE WITH DESCENDERfDIAERESIS
fVERTICAL STROKEdCLOSED LITTLE YUSdCROSSED OdDCHEdDEdDJEdDJERVdDOUBLE MONOCULAR OeOdDWEdDZEdDZELO
dDZHEdDZWEdDZZEdDZZHEdEdE WITH DIAERESISdEFdELdEL WITH DESCENDERfHOOKfMIDDLE HOOKfTAILdEM
dEM WITH TAILdENdEN WITH DESCENDERfHOOKfLEFT HOOKfMIDDLE HOOKfTAILdERdER WITH TICKdES
dES WITH DESCENDERdFITAdGHEdGHE WITH DESCENDERfMIDDLE HOOKfSTROKEfSTROKE AND HOOKfUPTURNdGJEdHA
dHA WITH DESCENDERfHOOKfSTROKEdHARD SIGNdHWEdIdI WITH DIAERESISfGRAVEfMACRONdIEdIE WITH BREVEfGRAVE
dIOdIOTAdIOTIFIED AeBIG YUSeCLOSED LITTLE YUSeEeLITTLE YUSeYATdIZHITSA
dIZHITSA WITH DOUBLE GRAVE ACCENTdJEdKAdKA WITH DESCENDERfHOOKfSTROKEfVERTICAL STROKEdKHAKASSIAN CHE
dKJEdKOMI DEeDJEeDZJEeLJEeNJEeSJEeTJEeZJEdKOPPAdKSIdLHAdLITTLE YUSdLJEdLONG-LEGGED DEdMONOCULAR O
dMONOGRAPH UKdNARROW OdNEUTRAL YERdNJEdOdO WITH DIAERESISdOMEGAdOMEGA WITH TITLOdOTdPALOCHKAdPE
dPE WITH DESCENDERfMIDDLE HOOKdPSIdQAdREVERSED DZEeTSEeYUeZEdRHAdROUND OMEGAdROUNDED VEdSCHWA
dSCHWA WITH DIAERESISdSEMISOFT SIGNdSHAdSHCHAdSHHAdSHHA WITH DESCENDERdSHORT IeI WITH TAILeUdSHWE
dSOFT DEeELeEMeSIGNdSTRAIGHT UeU WITH STROKEdTALL HARD SIGNeTEeYATdTCHEdTEdTE WITH DESCENDER
fMIDDLE HOOKdTHREE-LEGGED TEdTSEdTSHEdTSSEdTSWEdTWEdUdU WITH DIAERESISfDOUBLE ACUTEfMACRONdUK
dUKRAINIAN IEdUNBLENDED UKdVEdWEdWIDE ESdYAdYAEdYATdYERUdYERU WITH BACK YERfDIAERESISdYIdYNdYUdZE
dZE WITH DESCENDERfDIAERESISdZEMLYAdZHEdZHE WITH BREVEfDESCENDERfDIAERESISdZHWEcLIGATURE A IEdEN GHE
dTE TSEbTHOUSANDS SIGN
"

end LeastPrivilege.Text
