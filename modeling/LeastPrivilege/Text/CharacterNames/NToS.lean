/-!
Names of characters that begin with one of the letters `N` to `S`.
-/

namespace LeastPrivilege.Text

/-- The names of characters that begin with one of the letters `N` to `S`, in the short form. -/
def namesNToS : String := "
aN-ARY CIRCLED DOT OPERATORdPLUS OPERATORdTIMES OPERATORcCOPRODUCTcINTERSECTIONcLOGICAL ANDdOR
cPRODUCTcSQUARE INTERSECTION OPERATORdUNION OPERATORcSUMMATIONcTIMES OPERATORcUNION
cUNION OPERATOR WITH DOTfPLUScWHITE VERTICAL BARaNABATAEAN CRUCIFORM NUMBER FOURbLETTER ALEPHcAYIN
cBETHcDALETHcFINAL ALEPHdBETHdHEdKAPHdLAMEDHdMEMdNUNdSHINdYODHcGIMELcHEcHETHcKAPHcLAMEDHcMEMcNUNcPE
cQOPHcRESHcSADHEcSAMEKHcSHINcTAWcTETHcWAWcYODHcZAYINbNUMBER FIVEcFOURcONEcONE HUNDREDcTENcTHREE
cTWENTYcTWOaNABLAaNAIL POLISHaNAIRA SIGNaNAKaNAME BADGEaNANDaNANDINAGARI HEADSTROKEbLETTER AcAAcAI
cAUcBAcBHAcCAcCHAcDAcDDAcDDHAcDHAcEcGAcGHAcHAcIcIIcJAcJHAcKAcKHAcLAcLLAcMAcNAcNGAcNNAcNYAcOcPAcPHA
cRAcRRAcSAcSHAcSSAcTAcTHAcTTAcTTHAcUcUUcVAcVOCALIC RdRRcYAbSIGN ANUSVARAcAVAGRAHAcSIDDHAMcVIRAMA
cVISARGAbVOWEL SIGN AAdAIdAUdEdIdIIdOdPRISHTHAMATRA EdUdUUdVOCALIC ReRRaNARROW NO-BREAK SPACE
aNATIONAL DIGIT SHAPESbPARKaNAUSEATED FACEaNAZAR AMULETaNBHaNBSPaNECKTIE
aNEGATED DOUBLE VERTICAL BAR DOUBLE RIGHT TURNSTILEaNEGATIVE ACKNOWLEDGEbCIRCLED DIGIT ZERO
cLATIN CAPITAL LETTER AfBfCfDfEfFfGfHfIfJfKfLfMfNfOfPfQfRfSfTfUfVfWfXfYfZcNUMBER EIGHTEENdELEVEN
dFIFTEENdFOURTEENdNINETEENdSEVENTEENdSIXTEENdTHIRTEENdTWELVEdTWENTYcSQUAREcTRIANGLEbDIAGONAL CROSS
cDIAMONDcMIDDLE RIGHT TO LOWER CENTREbSQUARED ABcCROSS MARKcICcLATIN CAPITAL LETTER AfBfCfDfEfFfGfH
fIfJfKfLfMfNfOfPfQfRfSfTfUfVfWfXfYfZcPAcQUESTION MARKcSAcWCaNEITHER A SUBSET OF NOR EQUAL TO
cSUPERSET OF NOR EQUAL TObAPPROXIMATELY NOR ACTUALLY EQUAL TObGREATER-THAN NOR EQUAL TO
eEQUIVALENT TOeLESS-THANbLESS-THAN NOR EQUAL TOeEQUIVALENT TOeGREATER-THANaNELaNEPTUNE
aNEPTUNE FORM TWOaNERD FACEaNESSUSaNEST WITH EGGSaNESTING DOLLSaNEUTERaNEUTRAL CHESS BISHOP
cBISHOP ROTATED NINETY DEGREESeTWO HUNDRED SEVENTY DEGREEScEQUIHOPPER
cEQUIHOPPER ROTATED NINETY DEGREEScKINGcKING ROTATED NINETY DEGREESeTWO HUNDRED SEVENTY DEGREES
cKNIGHTcKNIGHT ROTATED FORTY-FIVE DEGREESeNINETY DEGREESeONE HUNDRED THIRTY-FIVE DEGREES
eTHREE HUNDRED FIFTEEN DEGREESeTWO HUNDRED SEVENTY DEGREESgTWENTY-FIVE DEGREEScPAWN
cPAWN ROTATED NINETY DEGREESeTWO HUNDRED SEVENTY DEGREEScQUEENcQUEEN ROTATED NINETY DEGREES
eTWO HUNDRED SEVENTY DEGREEScROOKcROOK ROTATED NINETY DEGREESeTWO HUNDRED SEVENTY DEGREES
cTURNED BISHOPdKINGdKNIGHTdPAWNdQUEENdROOKbFACEaNEW LINEbMOON SYMBOLcWITH FACEbSHEQEL SIGN
bTAI LUE DIGIT EIGHTeFIVEeFOUReNINEeONEeSEVENeSIXeTHREEeTWOeZEROdLETTER FINAL BfDfKfMfNfNGfVeHIGH BA
fDAfFAfHAfKAfKVAfLAfMAfNAfNGAfPAfPHAfQAfSAfSUAfTAfTHAfTSAfVAfXAfXVAfYAeLOW BAfDAfFAfHAfKAfKVAfLAfMA
fNAfNGAfPAfPHAfQAfSAfSUAfTAfTHAfTSAfVAfXAfXVAfYAdSIGN LAEeLAEVdTHAM DIGIT ONEdTONE MARK-1f2
dVOWEL SIGN AAfAAYfAEfAYfEfIIfIYfOfOAfOAYfOYfUfUEfUEYfUUfUYfVOWEL SHORTENERaNEWA ABBREVIATION SIGN
bCOMMAbDANDAbDIGIT EIGHTcFIVEcFOURcNINEcONEcSEVENcSIXcTHREEcTWOcZERObDOUBLE COMMAcDANDAbGAP FILLER
bINSERTION SIGNbLETTER AcAAcAIcAUcBAcBHAcCAcCHAcDAcDDAcDDHAcDHAcEcGAcGHAcHAcIcIIcJAcJHAcKAcKHAcLA
cLHAcMAcMHAcNAcNGAcNGHAcNHAcNNAcNYAcNYHAcOcPAcPHAcRAcRHAcSAcSHAcSSAcTAcTHAcTTAcTTHAcUcUU
cVEDIC ANUSVARAcVOCALIC LdLLdRdRRcWAcYAbOMbPLACEHOLDER MARKbSANDHI MARKbSIDDHIbSIGN ANUSVARA
cAVAGRAHAcCANDRABINDUcFINAL ANUSVARAcJIHVAMULIYAcNUKTAcUPADHMANIYAcVIRAMAcVISARGAbVOWEL SIGN AAdAI
dAUdEdIdIIdOdUdUUdVOCALIC LeLLeReRRaNEWLINE LEFTbRIGHTaNEWSPAPERaNEXT LINEbPAGEaNIGHT WITH STARS
aNINJAaNKO COMBINING DOUBLE DOT ABOVEcLONG DESCENDING TONEdHIGH TONEdLOW TONEdRISING TONE
cNASALIZATION MARKcSHORT HIGH TONEdLOW TONEdRISING TONEbCOMMAbDANTAYALANbDIGIT EIGHTcFIVEcFOURcNINE
cONEcSEVENcSIXcTHREEcTWOcZERObDOROME SIGNbEXCLAMATION MARKbHIGH TONE APOSTROPHEbLAJANYALANbLETTER A
cBAcCHAcDAcDAGBASINNAcEcEEcFAcGBAcHAcIcJAcJONA CHAdJAdRAcKAcLAcMAcNcNAcNA WOLOSOcNYAcNYA WOLOSOcOcOO
cPAcRAcRRAcSAcTAcUcWAcYAbLOW TONE APOSTROPHEbSYMBOL GBAKURUNENcOO DENNENbTAMAN SIGNaNLaNNBSP
aNO BICYCLESbBREAK HEREbENTRYbENTRY SIGNbMOBILE PHONESbONE UNDER EIGHTEEN SYMBOLbPEDESTRIANSbPIRACY
bSMOKING SYMBOLaNO-BREAK SPACEaNOMINAL DIGIT SHAPESaNOMISMA SIGNaNON-BREAKING HYPHEN
bPOTABLE WATER SYMBOLaNONFORKINGaNORaNORDIC MARK SIGNaNORMAL SUBGROUP OFcOF OR EQUAL TO
aNORTH EAST AND SOUTH WEST ARROWcARROWcARROW AND SOUTH EAST ARROWdCROSSING NORTH WEST ARROW
eSOUTH EAST ARROWdWITH HOOKcBLACK ARROWcDOUBLE ARROWcPOINTING BUDdLEAFdVINE LEAFcSANS-SERIF ARROW
cTRIANGLE-HEADED ARROWeARROW TO BARcWHITE ARROWbINDIC FRACTION ONE EIGHTHeHALFeQUARTEReSIXTEENTH
dTHREE QUARTERSeSIXTEENTHScPLACEHOLDER MARKcQUANTITY MARKcQUARTER MARKcRUPEE MARK
bWEST AND SOUTH EAST ARROWcARROWcARROW AND NORTH EAST ARROWdCROSSING NORTH EAST ARROWdTO CORNER
eLONG BARdWITH HOOKcBLACK ARROWcDOUBLE ARROWcPOINTING BUDdLEAFdVINE LEAFcSANS-SERIF ARROW
cTRIANGLE-HEADED ARROWeARROW TO BARcWHITE ARROWaNORTHEAST-POINTING AIRPLANEaNOSEaNOT A SUBSET OF
cSUPERSET OFbALMOST EQUAL TObAN ELEMENT OFbASYMPTOTICALLY EQUAL TObCHECK MARKbEQUAL TObEQUIVALENT TO
bGREATER-THANbIDENTICAL TObLESS-THANbNORMAL SUBGROUP OFdOF OR EQUAL TObPARALLEL TObSIGN
bSQUARE IMAGE OF OR EQUAL TOcORIGINAL OF OR EQUAL TObTILDEbTRUE
aNOTCHED LEFT SEMICIRCLE WITH THREE DOTSbLOWER RIGHT-SHADOWED WHITE RIGHTWARDS ARROW
bRIGHT SEMICIRCLE WITH THREE DOTSbUPPER RIGHT-SHADOWED WHITE RIGHTWARDS ARROWaNOTEaNOTE PADbPAGE
aNOTEBOOKaNOTEBOOK WITH DECORATIVE COVERaNULaNULLaNUMBER EIGHTEEN FULL STOPbELEVEN FULL STOP
bFIFTEEN FULL STOPbFOURTEEN FULL STOPbNINETEEN FULL STOPbSEVENTEEN FULL STOPbSIGNbSIXTEEN FULL STOP
bTEN FULL STOPbTHIRTEEN FULL STOPbTWELVE FULL STOPbTWENTY FULL STOPaNUMERO SIGN
aNUSHU CHARACTER-1B170c1B171c1B172c1B173c1B174c1B175c1B176c1B177c1B178c1B179c1B17Ac1B17Bc1B17Cc1B17D
c1B17Ec1B17Fc1B180c1B181c1B182c1B183c1B184c1B185c1B186c1B187c1B188c1B189c1B18Ac1B18Bc1B18Cc1B18D
c1B18Ec1B18Fc1B190c1B191c1B192c1B193c1B194c1B195c1B196c1B197c1B198c1B199c1B19Ac1B19Bc1B19Cc1B19D
c1B19Ec1B19Fc1B1A0c1B1A1c1B1A2c1B1A3c1B1A4c1B1A5c1B1A6c1B1A7c1B1A8c1B1A9c1B1AAc1B1ABc1B1ACc1B1AD
c1B1AEc1B1AFc1B1B0c1B1B1c1B1B2c1B1B3c1B1B4c1B1B5c1B1B6c1B1B7c1B1B8c1B1B9c1B1BAc1B1BBc1B1BCc1B1BD
c1B1BEc1B1BFc1B1C0c1B1C1c1B1C2c1B1C3c1B1C4c1B1C5c1B1C6c1B1C7c1B1C8c1B1C9c1B1CAc1B1CBc1B1CCc1B1CD
c1B1CEc1B1CFc1B1D0c1B1D1c1B1D2c1B1D3c1B1D4c1B1D5c1B1D6c1B1D7c1B1D8c1B1D9c1B1DAc1B1DBc1B1DCc1B1DD
c1B1DEc1B1DFc1B1E0c1B1E1c1B1E2c1B1E3c1B1E4c1B1E5c1B1E6c1B1E7c1B1E8c1B1E9c1B1EAc1B1EBc1B1ECc1B1ED
c1B1EEc1B1EFc1B1F0c1B1F1c1B1F2c1B1F3c1B1F4c1B1F5c1B1F6c1B1F7c1B1F8c1B1F9c1B1FAc1B1FBc1B1FCc1B1FD
c1B1FEc1B1FFc1B200c1B201c1B202c1B203c1B204c1B205c1B206c1B207c1B208c1B209c1B20Ac1B20Bc1B20Cc1B20D
c1B20Ec1B20Fc1B210c1B211c1B212c1B213c1B214c1B215c1B216c1B217c1B218c1B219c1B21Ac1B21Bc1B21Cc1B21D
c1B21Ec1B21Fc1B220c1B221c1B222c1B223c1B224c1B225c1B226c1B227c1B228c1B229c1B22Ac1B22Bc1B22Cc1B22D
c1B22Ec1B22Fc1B230c1B231c1B232c1B233c1B234c1B235c1B236c1B237c1B238c1B239c1B23Ac1B23Bc1B23Cc1B23D
c1B23Ec1B23Fc1B240c1B241c1B242c1B243c1B244c1B245c1B246c1B247c1B248c1B249c1B24Ac1B24Bc1B24Cc1B24D
c1B24Ec1B24Fc1B250c1B251c1B252c1B253c1B254c1B255c1B256c1B257c1B258c1B259c1B25Ac1B25Bc1B25Cc1B25D
c1B25Ec1B25Fc1B260c1B261c1B262c1B263c1B264c1B265c1B266c1B267c1B268c1B269c1B26Ac1B26Bc1B26Cc1B26D
c1B26Ec1B26Fc1B270c1B271c1B272c1B273c1B274c1B275c1B276c1B277c1B278c1B279c1B27Ac1B27Bc1B27Cc1B27D
c1B27Ec1B27Fc1B280c1B281c1B282c1B283c1B284c1B285c1B286c1B287c1B288c1B289c1B28Ac1B28Bc1B28Cc1B28D
c1B28Ec1B28Fc1B290c1B291c1B292c1B293c1B294c1B295c1B296c1B297c1B298c1B299c1B29Ac1B29Bc1B29Cc1B29D
c1B29Ec1B29Fc1B2A0c1B2A1c1B2A2c1B2A3c1B2A4c1B2A5c1B2A6c1B2A7c1B2A8c1B2A9c1B2AAc1B2ABc1B2ACc1B2AD
c1B2AEc1B2AFc1B2B0c1B2B1c1B2B2c1B2B3c1B2B4c1B2B5c1B2B6c1B2B7c1B2B8c1B2B9c1B2BAc1B2BBc1B2BCc1B2BD
c1B2BEc1B2BFc1B2C0c1B2C1c1B2C2c1B2C3c1B2C4c1B2C5c1B2C6c1B2C7c1B2C8c1B2C9c1B2CAc1B2CBc1B2CCc1B2CD
c1B2CEc1B2CFc1B2D0c1B2D1c1B2D2c1B2D3c1B2D4c1B2D5c1B2D6c1B2D7c1B2D8c1B2D9c1B2DAc1B2DBc1B2DCc1B2DD
c1B2DEc1B2DFc1B2E0c1B2E1c1B2E2c1B2E3c1B2E4c1B2E5c1B2E6c1B2E7c1B2E8c1B2E9c1B2EAc1B2EBc1B2ECc1B2ED
c1B2EEc1B2EFc1B2F0c1B2F1c1B2F2c1B2F3c1B2F4c1B2F5c1B2F6c1B2F7c1B2F8c1B2F9c1B2FAc1B2FBbITERATION MARK
aNUT AND BOLTaNYIAKENG PUACHUE HMONG CIRCLED CAdDIGIT EIGHTeFIVEeFOUReNINEeONEeSEVENeSIXeTHREEeTWO
eZEROdLETTER AeAAeCAeDAeDLAeEeEEeFAeGAeHAeHAHeIeKAeLAeMAeMLAeNAeNCAeNKAeNPAeNPLAeNQAeNRAeNTAeNTSA
eNTXAeNYAeOeOOePAePLAeQAeRAeRRAeSAeTAeTSAeTXAeUeVAeWeXAeXYAeYAeZAdLOGOGRAM NYAJdSIGN FOR ANIMAL
fINVERTEBRATEfLOCATIONfPERSONfTHINGeXW XWdSYLLABLE LENGTHENERdTONE-BeDeGeJeMeSeV
aOBJECT REPLACEMENT CHARACTERaOBLIQUE ANGLE OPENING DOWNdUPbHYPHENaOBSERVER EYE SYMBOL
aOCR AMOUNT OF CHECKbBELT BUCKLEbBOW TIEbBRANCH BANK IDENTIFICATIONbCHAIRbCUSTOMER ACCOUNT NUMBER
bDASHbDOUBLE BACKSLASHbFORKbHOOKbINVERTED FORKaOCTAGONAL SIGNaOCTOPUSaODENaOFFICE BUILDING
aOGHAM FEATHER MARKbLETTER AILMcBEITHcCEIRTcCOLLcDAIRcEABHADHcEADHADHcEAMHANCHOLLcFEARNcGORTcIFIN
cIODHADHcLUIScMUINcNGEADALcNIONcONNcORcPEITHcRUIScSAILcSTRAIFcTINNEcUATHcUILLEANNcUR
bREVERSED FEATHER MARKbSPACE MARKaOGONEKaOHM SIGNaOIL DRUMaOK HAND SIGNaOL CHIKI AHADcDIGIT EIGHT
dFIVEdFOURdNINEdONEdSEVENdSIXdTHREEdTWOdZEROcGAAHLAA TTUDDAAGcLETTER AAJdAAKdAAMdAAWdAGdALdANGdAT
dEDDdENdEPdERRdIHdINYdIRdISdLAdLAAdLEdLIdLOdLUdOBdOHdOTTdOVdUCdUDdUNNdUYcMU TTUDDAG
cMU-GAAHLAA TTUDDAAGcPHAARKAAcPUNCTUATION DOUBLE MUCAADdMUCAADcRELAAaOLD CHINESE HOOK MARK
cITERATION MARKbHUNGARIAN CAPITAL LETTER AeAAeAKeAMBeANDeCLOSE EeEeEBeECeECHeECSeEDeEEeEFeEGeEGYeEH
eEJeEKeELeELYeEMeEMPeENeENCeENTeENT-SHAPED SIGNeENYeEPeEReESeESZeETeETYeEVeEZeEZSeIeIIeNIKOLSBURG OE
fUEeOeOEEeOOeRUDIMENTA OEfUEeSHORT EReUeUNKeUSeUUcNUMBER FIFTYdFIVEdONEdONE HUNDREDeTHOUSANDdTEN
cSMALL LETTER AeAAeAKeAMBeANDeCLOSE EeEeEBeECeECHeECSeEDeEEeEFeEGeEGYeEHeEJeEKeELeELYeEMeEMPeENeENC
eENTeENT-SHAPED SIGNeENYeEPeEReESeESZeETeETYeEVeEZeEZSeIeIIeNIKOLSBURG OEfUEeOeOEEeOOeRUDIMENTA OE
fUEeSHORT EReUeUNKeUSeUUbITALIC LETTER AdBEdCHEdDEdEdEFdEKSdELdEMdENdERdERSdESdESHdESSdHEdIdIIdKAdKE
dKHEdKUdNORTHERN TSEdOdPEdPHEdSHEdSOUTHERN TSEdTEdTHEdUdUUdVEdYEdZEcNUMERAL FIFTYdFIVEdONEdTENbKEY
bNORTH ARABIAN LETTER AINeALEFeBEHeDADeDALeES-1f2f3eFEHeGEEMeGHAINeHAHeHEHeKAFeKHAHeLAMeMEEMeNOON
eQAFeREHeSADeTAHeTEHeTHALeTHEHeWAWeYEHeZAHeZAINdNUMBER ONEeTENeTWENTYbPERMIC LETTER ANdBURdCHERYdDOI
dDZHOIdDZITAdEdEFdGAIdHAdIdIAdIEdKOKEdLEIdMENOEdNENOEdOdOOdPEEIdREIdSHCHOOIdSHOOIdSIIdTAIdTSIUdUdVER
dVOOIdYAdYATdYERdYERIdYERUdYRYdYUdZATAdZHOIbPERSIAN NUMBER HUNDREDdONEdTENdTWENTYdTWOcSIGN A
dAURAMAZDAAdAURAMAZDAA-2dAURAMAZDAAHAdBAdBAGAdBUUMISHdCAdDAdDAHYAAUSHdDAHYAAUSH-2dDIdDUdFAdGAdGUdHA
dIdJAdJIdKAdKUdLAdMAdMIdMUdNAdNUdPAdRAdRUdSAdSHAdSSAdTAdTHAdTUdUdVAdVIdXAdXSHAAYATHIYAdYAdZA
cWORD DIVIDERbPERSONAL COMPUTERbSOGDIAN FRACTION ONE HALFcLETTER ALEPHdALTERNATE AYINdAYINdBETH
dFINAL ALEPHeBETHeHEeNUNeNUN WITH VERTICAL TAILeSADHEeSADHE WITH VERTICAL TAILeTAW
eTAW WITH VERTICAL TAILdGIMELdHEdHETHdKAPHdLAMEDHdMEMdNUNdPEdRESH-AYIN-DALETHdSADHEdSAMEKHdSHINdTAW
dWAWdYODHdZAYINcLIGATURE AYIN-DALETHcNUMBER FIVEdFOURdONEdONE HUNDREDdTENdTHIRTYdTHREEdTWENTYdTWO
bSOUTH ARABIAN LETTER ALEFeAYNeBETHeDALETHeDHADHEeDHALETHeFEeGHAYNeGIMELeHEeHETHeKAPHeKHETHeLAMEDH
eMEMeNUNeQOPHeRESHeSADHEeSAMEKHeSATeSHINeTAWeTETHeTHAWeTHETHeWAWeYODHeZAYNdNUMBER FIFTYeONE
dNUMERIC INDICATORbTURKIC LETTER ORKHON AeABeADeAEBeAEDeAEGeAEKeAELeAENeAEReAESeAETeAEYeAGeALeANeAQ
eAReASeASHeATeAYeBASHeECeELTeEMeENCeENGeENTeENYeEPeESHeEZeIeICeIQeOeOEeOEKeOPeOQeOTdYENISEI AeABeAD
eAEeAEBeAEGeAEKeAENeAENGeAETeAEYeAGeALeANGeAQeAReASHeATeAYeEeECeENCeENTeENYeESHeEZeIeIQeOEeOEKeOQ
bUYGHUR COMBINING DOT ABOVEeBELOWdTWO DOTS ABOVEfBELOWcLETTER ALEPHdBETHdFINAL HETHdGIMEL-HETHdKAPH
dLAMEDHdLESHdMEMdNUNdPEdRESHdSADHEdSAMEKHdSHINdTAWdWAWdYODHdZAYINcPUNCTUATION BARdFOUR DOTSdTWO BARS
eDOTSaOLDER ADULTbMANbWOMANaOLIVEaOM SYMBOLaON WITH EXCLAMATION MARK WITH LEFT RIGHT ARROW ABOVE
aONCOMING AUTOMOBILEbBUSbFIRE ENGINEbPOLICE CARbTAXIaONE BUTTON MOUSEbDOT LEADER
cOVER TWO DOTS PUNCTUATIONaONE-PIECE SWIMSUITaONIONaOPEN BOOKbBOXbCENTRE ASTERISKcBLACK STARcCROSS
cTEARDROP-SPOKED ASTERISKbFILE FOLDERbFOLDERbHANDS SIGNbLOCKbMAILBOX WITH LOWERED FLAGdRAISED FLAG
bSUBSETbSUPERSETaOPEN-CIRCUIT-OUTPUT H-TYPE SYMBOLdL-TYPE SYMBOLbOUTLINED RIGHTWARDS ARROW
aOPERATING SYSTEM COMMANDaOPHIUCHUSaOPPOSITIONaOPTICAL DISCbDISC ICONaOPTION KEYaOR WITH DOT INSIDE
aORANGE BOOKbHEARTaORANGUTANaORIGINAL OFaORIYA AI LENGTH MARKbAU LENGTH MARKbDIGIT EIGHTcFIVEcFOUR
cNINEcONEcSEVENcSIXcTHREEcTWOcZERObFRACTION ONE EIGHTHdHALFdQUARTERdSIXTEENTHcTHREE QUARTERS
dSIXTEENTHSbISSHARbLETTER AcAAcAIcAUcBAcBHAcCAcCHAcDAcDDAcDDHAcDHAcEcGAcGHAcHAcIcIIcJAcJHAcKAcKHAcLA
cLLAcMAcNAcNGAcNNAcNYAcOcPAcPHAcRAcRHAcRRAcSAcSHAcSSAcTAcTHAcTTAcTTHAcUcUUcVAcVOCALIC LdLLdRdRRcWA
cYAcYYAbSIGN ANUSVARAcAVAGRAHAcCANDRABINDUcNUKTAcOVERLINEcVIRAMAcVISARGAbVOWEL SIGN AAdAIdAUdEdIdII
dOdUdUUdVOCALIC LeLLeReRRaORNATE LEFT PARENTHESISbRIGHT PARENTHESISaORTHODOX CROSS
aOSAGE CAPITAL LETTER AdAHdAIdAINdBRAdCHAdDHAdEdEHCHAdEHKAdEHPAdEHTAdEHTSAdEINdGHAdHAdHYAdIdKAdKHA
dKYAdLAdMAdNAdOdOINdPAdSAdSHAdTAdTSAdTSHAdUdWAdZAdZHAbSMALL LETTER AdAHdAIdAINdBRAdCHAdDHAdEdEHCHA
dEHKAdEHPAdEHTAdEHTSAdEINdGHAdHAdHYAdIdKAdKHAdKYAdLAdMAdNAdOdOINdPAdSAdSHAdTAdTSAdTSHAdUdWAdZAdZHA
aOSCaOSMANYA DIGIT EIGHTcFIVEcFOURcNINEcONEcSEVENcSIXcTHREEcTWOcZERObLETTER AcAAcALEFcBAcCAYNcDEEL
cDHAcEcEEcFAcGAcHAcIcJAcKAAFcKHAcLAANcMIINcNUUNcOcOOcQAAFcRAcSAcSHIINcTAcUcWAWcXAcYAaOTTER
aOTTOMAN SIYAQ ALTERNATE NUMBER EIGHTeFIVEeFOUReFOUR HUNDREDeNINEeSEVENeSIXeSIX HUNDREDeTEN
eTEN THOUSANDeTHREEeTWOeTWO THOUSANDcFRACTION ONE HALFeSIXTHcMARRATANcNUMBER EIGHTdEIGHT HUNDRED
eTHOUSANDdEIGHTYdEIGHTY THOUSANDdFIFTYdFIFTY THOUSANDdFIVEdFIVE HUNDREDeTHOUSANDdFORTY
dFORTY THOUSANDdFOURdFOUR HUNDREDeTHOUSANDdNINEdNINE HUNDREDeTHOUSANDdNINETYdNINETY THOUSANDdONE
dONE HUNDREDeTHOUSANDdSEVENdSEVEN HUNDREDeTHOUSANDdSEVENTYdSEVENTY THOUSANDdSIXdSIX HUNDREDeTHOUSAND
dSIXTYdSIXTY THOUSANDdTENdTEN THOUSANDdTHIRTYdTHIRTY THOUSANDdTHREEdTHREE HUNDREDeTHOUSANDdTWENTY
dTWENTY THOUSANDdTWOdTWO HUNDREDeTHOUSANDaOUNCE SIGNaOUTBOX TRAYaOUTLINED BLACK STARbGREEK CROSS
bLATIN CROSSbWHITE STARaOVERHEATED FACEaOVERLAPaOVERLAPPING BLACK SQUARESbWHITE AND BLACK SQUARES
cSQUARESaOVERLINEaOWLaOXaOYSTERaPACKAGEaPADaPADDING CHARACTERaPAGEaPAGE FACING UPbWITH CIRCLED TEXT
cCURLaPAGERaPAGESaPAGODAaPAHAWH HMONG CLAN SIGN FAJeHAMeHAWJeKHABeKOOeKWMeLAUJeLISeMUASePHABeTHOJ
eTSABeTSHEEJeTSWBeVAJeVWJeXYOOJeYAJeYEEGcCONSONANT AUdCAUdCHAUdHAUdHLAUdHNAUdLAUdMAUdNAUdNCHAUdNKAU
dNLAUdNTHAUdNTSAUdPLHAUdQHAUdRAUdVAUdXAUdYAUcDIGIT EIGHTdFIVEdFOURdNINEdONEdSEVENdSIXdTHREEdTWOdZERO
cMARK CIM HOMeKESeKHAVeSOeSUAMeTAUMeTUBcNUMBER HUNDRED MILLIONSdHUNDREDSdMILLIONSdTEN BILLIONS
eTHOUSANDSdTENSdTRILLIONScSIGN AVdCIM CHEEMeCUAM TSHOOJeHAIS LUS NTOG NTOGeNRES TOSePUB DAWB
eTSOV ROGeTXWVeTXWV CHWVdHLIdHNUBdIB YAMdLOSdMEEJ SUABeTSEEBdMUSdNQIGdNTUJdTAUdTHIRD-STAGE HLI
dTXHEEJ CEEVdVOS FEEMeLUBeNRUAeSEEVeTHIABeTHOMeTSHAB CEEBdXAUSdXIABdXYEEM FAIBeNTXIVeRHOeTOVdXYOO
dZWJ THAJcVOWEL KAABdKAAVdKABdKAIBdKAIVdKAUBdKAUVdKAVdKAWBdKAWVdKEBdKEEBdKEEVdKEVdKIABdKIAVdKIBdKIV
dKOBdKOOBdKOOVdKOVdKUABdKUAVdKUBdKUVdKWBdKWVaPALLASaPALM BRANCHbDOWN HANDbTREEbUP HAND
aPALMS UP TOGETHERaPALMYRENE LEFT-POINTING FLEURONbLETTER ALEPHcAYINcBETHcDALETHcFINAL NUNcGIMELcHE
cHETHcKAPHcLAMEDHcMEMcNUNcPEcQOPHcRESHcSADHEcSAMEKHcSHINcTAWcTETHcWAWcYODHcZAYINbNUMBER FIVEcFOUR
cONEcTENcTHREEcTWENTYcTWObRIGHT-POINTING FLEURONaPANCAKESaPANDA FACEaPAPERCLIPaPARACHUTE
aPARAGRAPH SEPARATORaPARAGRAPHOSaPARAGRAPHUS MARKaPARALLEL TObWITH HORIZONTAL STROKEcTILDE OPERATOR
aPARENTHESIZED DIGIT EIGHTcFIVEcFOURcNINEcONEcSEVENcSIXcTHREEcTWObHANGUL CHIEUCHcCHIEUCH AcCIEUC
cCIEUC AdUcHIEUHcHIEUH AcIEUNGcIEUNG AcKHIEUKHcKHIEUKH AcKIYEOKcKIYEOK AcMIEUMcMIEUM AcNIEUNcNIEUN A
cPHIEUPHcPHIEUPH AcPIEUPcPIEUP AcRIEULcRIEUL AcSIOScSIOS AcTHIEUTHcTHIEUTH AcTIKEUTcTIKEUT A
bIDEOGRAPH ALLIANCEcCALLcCONGRATULATIONcEARTHcEIGHTcENTERPRISEcFESTIVALcFINANCIALcFIREcFIVEcFOUR
cHAVEcLABORcMETALcMOONcNAMEcNINEcONEcREACHcREPRESENTcRESOURCEcRESTcSELFcSEVENcSIXcSOCIETYcSPECIAL
cSTOCKcSTUDYcSUNcSUPERVISEcTENcTHREEcTWOcWATERcWOODbKOREAN CHARACTER O HUdOJEON
bLATIN CAPITAL LETTER AeBeCeDeEeFeGeHeIeJeKeLeMeNeOePeQeReSeTeUeVeWeXeYeZcSMALL LETTER AeBeCeDeEeFeG
eHeIeJeKeLeMeNeOePeQeReSeTeUeVeWeXeYeZbNUMBER EIGHTEENcELEVENcFIFTEENcFOURTEENcNINETEENcSEVENTEEN
cSIXTEENcTENcTHIRTEENcTWELVEcTWENTYaPARROTaPART ALTERNATION MARKaPARTIAL DIFFERENTIALbLINE BACKWARD
cDOWNcFORWARDcUPaPARTIALLY-RECYCLED PAPER SYMBOLaPARTNERSHIP SIGNaPARTY POPPERaPASSED SYMBOL
aPASSENGER SHIPaPASSIVE-PULL-DOWN-OUTPUT SYMBOLcUP-OUTPUT SYMBOLaPASSPORT CONTROL
aPAU CIN HAU GLOTTAL STOPeSTOP FINALfVARIANTdLETTER AeBAeCAeCHAeDAeEeFAeFINAL KfLfMfNfNGfPfTfWfYeGA
eHAeIeIAeKAeKHAeLAeMAeNAeNGAeOePAePHAeRAeSAeTAeTHAeUeUAeVAeZAdLOW-FALLING TONEfTONE FINALgLONG
gLONG FINALdMID-LEVEL TONEfTONE FINALgLONG FINALdRISING TONEeTONE FINALfLONGfLONG FINAL
dSANDHI GLOTTAL STOPfSTOP FINALeTONEeTONE FINALfLONGfLONG FINALaPAW PRINTSaPDFaPDIaPEACE SYMBOL
aPEACHaPEACOCKaPEANUTSaPEARaPEDESTRIANaPEN OVER STAMPED ENVELOPEaPENCILaPENGUINaPENSIVE FACE
aPENTAGRAMaPEOPLE HUGGINGaPER MILLE SIGNbSIGNbTEN THOUSAND SIGNaPERCENT SIGNaPERFORMING ARTS
aPERMANENT PAPER SIGNaPERPENDICULARaPERPENDICULAR WITH SaPERSEVERING FACEaPERSON BOWING DEEPLY
bCLIMBINGbDOING CARTWHEELbFROWNINGbIN LOTUS POSITIONcSTEAMY ROOMbRAISING BOTH HANDS IN CELEBRATION
bWITH BALLcBLOND HAIRcCROWNcFOLDED HANDScHEADSCARFcPOUTING FACEaPERSONAL COMPUTERaPERSPECTIVE
aPESETA SIGNaPESO SIGNaPETRI DISHaPHAGS-PA DOUBLE HEAD MARKcLETTER AdALTERNATE YAdASPIRATED FAdBAdCA
dCANDRABINDUdCHAdDAdDDAdDZAdEdEEdFAdGAdGGAdHAdIdJAdKAdKHAdLAdMAdNAdNGAdNNAdNYAdOdPAdPHAdQAdRAdSAdSHA
dSMALL AdTAdTHAdTSAdTSHAdTTAdTTHAdUdVOICED HAdVOICELESS SHAdWAdXAdYAdZAdZHAcMARK DOUBLE SHADdSHAD
cSINGLE HEAD MARKcSUBJOINED LETTER RAeWAeYAcSUPERFIXED LETTER RAaPHAISTOS DISC SIGN ARROWdBEE
dBEEHIVEdBOOMERANGdBOWdBULLS LEGdCAPTIVEdCARPENTRY PLANEdCATdCHILDdCLUBdCOLUMNdCOMB
dCOMBINING OBLIQUE STROKEdDOLIUMdDOVEdEAGLEdFLUTEdGAUNTLETdGRATERdHELMETdHIDEdHORNdLIDdLILYdMANACLES
dMATTOCKdOX BACKdPAPYRUSdPEDESTRIANdPLANE TREEdPLUMED HEADdRAMdROSETTEdSAWdSHIELDdSHIPdSLING
dSMALL AXEdSTRAINERdTATTOOED HEADdTIARAdTUNNYdVINEdWAVY BANDdWOMANaPHILIPPINE DOUBLE PUNCTUATION
bSINGLE PUNCTUATIONaPHOENICIAN LETTER AINcALFcBETcDELTcGAMLcHEcHETcKAFcLAMDcMEMcNUNcPEcQOFcROSHcSADE
cSEMKcSHINcTAUcTETcWAUcYODcZAIbNUMBER ONEcONE HUNDREDcTENcTHREEcTWENTYcTWObWORD SEPARATORaPHOLUS
aPICKaPICKUP TRUCKaPIEaPIGaPIG FACEbNOSEaPILCROW SIGNaPILE OF POOaPILLaPINATAaPINCHED FINGERS
aPINCHING HANDaPINE DECORATIONaPINEAPPLEaPINWHEEL STARaPISCESaPISTOLaPITCHFORK
aPITCHFORK WITH TEE TOPaPLACARDaPLACE OF INTEREST SIGNcWORSHIPaPLANCK CONSTANTbCONSTANT OVER TWO PI
aPLAYGROUND SLIDEaPLAYING CARD ACE OF CLUBSeDIAMONDSeHEARTSeSPADEScBACKcBLACK JOKERcEIGHT OF CLUBS
eDIAMONDSeHEARTSeSPADEScFIVE OF CLUBSeDIAMONDSeHEARTSeSPADEScFOOLcFOUR OF CLUBSeDIAMONDSeHEARTS
eSPADEScJACK OF CLUBSeDIAMONDSeHEARTSeSPADEScKING OF CLUBSeDIAMONDSeHEARTSeSPADEScKNIGHT OF CLUBS
eDIAMONDSeHEARTSeSPADEScNINE OF CLUBSeDIAMONDSeHEARTSeSPADEScQUEEN OF CLUBSeDIAMONDSeHEARTSeSPADES
cRED JOKERcSEVEN OF CLUBSeDIAMONDSeHEARTSeSPADEScSIX OF CLUBSeDIAMONDSeHEARTSeSPADEScTEN OF CLUBS
eDIAMONDSeHEARTSeSPADEScTHREE OF CLUBSeDIAMONDSeHEARTSeSPADEScTRUMP-1d10d11d12d13d14d15d16d17d18d19
d2d20d21d3d4d5d6d7d8d9cTWO OF CLUBSeDIAMONDSeHEARTSeSPADEScWHITE JOKERaPLDaPLUaPLUNGERaPLUS SIGN
bSIGN ABOVE EQUALS SIGNcIN LEFT HALF CIRCLEdRIGHT HALF CIRCLEdTRIANGLEcWITH BLACK TRIANGLE
dCIRCUMFLEX ACCENT ABOVEdDOT BELOWdSMALL CIRCLE ABOVEdSUBSCRIPT TWOdTILDE ABOVEeBELOW
aPLUS-MINUS SIGNaPLUTOaPLUTO FORM FIVEcFOURcTHREEcTWOaPMaPOCKET CALCULATORaPOLICE CAR
bCARS REVOLVING LIGHTbOFFICERaPOODLEaPOP DIRECTIONAL FORMATTINGcISOLATEaPOPCORNaPORTABLE STEREO
aPOSEIDONaPOSITION INDICATORaPOSTAL HORNbMARKbMARK FACEaPOSTBOXaPOT OF FOODaPOTABLE WATER SYMBOL
aPOTATOaPOTTED PLANTaPOUCHaPOULTRY LEGaPOUND SIGNaPOURING LIQUIDaPOUTING CAT FACEbFACE
aPOWER ON SYMBOLbON-OFF SYMBOLbSLEEP SYMBOLbSYMBOLaPRAYER BEADSaPRECEDES
aPRECEDES ABOVE ALMOST EQUAL TOcEQUALS SIGNcNOT ALMOST EQUAL TOdEQUAL TOcSINGLE-LINE EQUALS SIGN
eNOT EQUAL TObBUT NOT EQUIVALENT TObOR EQUAL TOcEQUIVALENT TObUNDER RELATIONaPREGNANT MANbPERSON
bWOMANaPRESCRIPTION TAKEaPRESENTATION FORM FOR VERTICAL COLONeCOMMAeEM DASHeEN DASHeEXCLAMATION MARK
eHORIZONTAL ELLIPSISeIDEOGRAPHIC COMMAfFULL STOPeLEFT ANGLE BRACKETfBLACK LENTICULAR BRACKET
fCORNER BRACKETfCURLY BRACKETfDOUBLE ANGLE BRACKETfPARENTHESISfSQUARE BRACKETfTORTOISE SHELL BRACKET
fWHITE CORNER BRACKETgLENTICULAR BRACKETeLOW LINEeQUESTION MARKeRIGHT ANGLE BRACKET
fBLACK LENTICULAR BRACKETfCORNER BRACKETfCURLY BRACKETfDOUBLE ANGLE BRACKETfPARENTHESIS
fSQUARE BRACKETfTORTOISE SHELL BRACKETfWHITE CORNER BRACKETgLENTICULAR BRACKEThBRAKCETeSEMICOLON
eTWO DOT LEADEReWAVY LOW LINEaPRETZELaPREVIOUS PAGEaPRIMEaPRINCEaPRINCESSaPRINT SCREEN SYMBOL
aPRINTERaPRINTER ICONaPRIVACY MESSAGEaPRIVATE USE ONEcTWObUSE-1c2aPROBING CANEaPROHIBITED SIGN
aPROJECTIVEaPROPERTY LINEaPROPORTIONaPROPORTIONAL TOaPROSERPINAaPSALTER PAHLAVI FOUR DOTS WITH CROSS
fDOTcLETTER ALEPHdBETHdDALETHdGIMELdHEdHETHdKAPHdLAMEDHdMEM-QOPHdNUNdPEdSADHEdSAMEKHdSHINdTAW
dWAW-AYIN-RESHdYODHdZAYINcNUMBER FOURdONEdONE HUNDREDdTENdTHREEdTWENTYdTWOcSECTION MARK
cTURNED SECTION MARKaPU1aPU2aPUBLIC ADDRESS LOUDSPEAKERaPUNCTUATION SPACEaPUNCTUS ELEVATUS MARK
aPURPLE HEARTaPURSEaPUSHPINaPUT LITTER IN ITS PLACE SYMBOLaQUADRANT LOWER LEFTcRIGHTbUPPER LEFT
cLEFT AND LOWER LEFT AND LOWER RIGHTfRIGHTeUPPER RIGHT AND LOWER LEFTiRIGHTcRIGHT
cRIGHT AND LOWER LEFTfLEFT AND LOWER RIGHTaQUADRUPLE INTEGRAL OPERATORbPRIMEaQUARTER NOTE
aQUATERNION INTEGRAL OPERATORaQUESTION EXCLAMATION MARKbMARKaQUESTIONED EQUAL TOaQUINCUNX
aQUOTATION MARKaRABBITaRABBIT FACEaRACCOONaRACING CARbMOTORCYCLEaRADICAL SYMBOL BOTTOMaRADIO
aRADIO BUTTONaRADIOACTIVE SIGNaRAILWAY CARbTRACKaRAINaRAINBOWaRAISED BACK OF HANDbCOMMAbDOT
bDOTTED INTERPOLATION MARKERbFISTbHANDbHAND WITH FINGERS SPLAYED
dPART BETWEEN MIDDLE AND RING FINGERSbINTERPOLATION MARKERbMC SIGNbMD SIGNbMR SIGNbSQUAREaRAMaRAT
aRATIOaRAZORaRECEIPTaRECORD SEPARATORaRECREATIONAL VEHICLEaRECYCLED PAPER SYMBOL
aRECYCLING SYMBOL FOR GENERIC MATERIALSdTYPE-1 PLASTICSe2 PLASTICSe3 PLASTICSe4 PLASTICSe5 PLASTICS
e6 PLASTICSe7 PLASTICSaRED APPLEbGIFT ENVELOPEaREFERENCE MARKaREGIONAL INDICATOR SYMBOL LETTER AeBeC
eDeEeFeGeHeIeJeKeLeMeNeOePeQeReSeTeUeVeWeXeYeZaREGISTERED SIGNaREJANG CONSONANT SIGN HdNdNGdR
bLETTER AcBAcCAcDAcGAcHAcJAcKAcLAcMAcMBAcNAcNDAcNGAcNGGAcNYAcNYJAcPAcRAcSAcTAcWAcYAbSECTION MARK
bVIRAMAbVOWEL SIGN AIdAUdEdEAdEUdIdOdUaRELIEVED FACEaREMINDER RIBBONaREPLACEMENT CHARACTERaRESPONSE
aRESTRICTED LEFT ENTRY-1d2aRESTROOMaRETURN LEFTbRIGHTbSYMBOLaREVERSE CHECKER BOARDbINDEX
bLIGHT FOUR POINTED PINWHEEL STARbLINE FEEDbSOLIDUSbSOLIDUS OPERATORcPRECEDING SUBSET
cWITH HORIZONTAL STROKEbTILDE OPERATOR ABOVE LEFTWARDS ARROWeRIGHTWARDS ARROWaREVERSED ANGLE
bANGLE WITH UNDERBARbCOMMAbDOUBLE PRIMEcPRIME QUOTATION MARKcSTROKE NOT SIGNbEMPTY SET
bFORKED PARAGRAPHOSbHAND WITH MIDDLE FINGER EXTENDEDbNOT SIGNbPILCROW SIGNbPRIMEbQUESTION MARK
bRAISED HAND WITH FINGERS SPLAYEDbRIGHT ANGLEbROTATED FLORAL HEART BULLETbSANS-SERIF CAPITAL L
bSEMICOLONbTHUMBS DOWN SIGNcUP SIGNbTILDEbTILDE EQUALSbTRIPLE PRIMEbVICTORY HANDaREVOLVING HEARTS
aRHINOCEROSaRIaRIAL SIGNaRIBBONaRIBBON ARROW DOWN LEFTdRIGHTcLEFT DOWNdUPcRIGHT DOWNdUPcUP LEFT
dRIGHTaRICE BALLbCRACKERaRIFLEaRIGHT AND LOWER ONE EIGHTH BLOCKcUPPER ONE EIGHTH BLOCKbANGER BUBBLE
bANGLEbANGLE BRACKETcBRACKET WITH DOTcDOTTED SUBSTITUTION MARKERcSUBSTITUTION MARKER
cVARIANT WITH SQUAREcWITH ARCdDOWNWARDS ZIGZAG ARROWbARC GREATER-THAN BRACKET
bARROW WITH CIRCLED PLUSdSMALL CIRCLEbBLACK LENTICULAR BRACKETcTORTOISE SHELL BRACKETbCEILING
bCORNER BRACKETbCURLY BRACKETcBRACKET LOWER HOOKdMIDDLE PIECEdUPPER HOOKbDOTTED SUBSTITUTION BRACKET
bDOUBLE ANGLE BRACKETcARROW WITH ROUNDED HEADcPARENTHESIScQUOTATION MARKcWIGGLY FENCEbFISH TAIL
bFIVE EIGHTHS BLOCKbFLOORbHALF BLACK CIRCLEdSTARcBLOCKcFOLDERcMEDIUM SHADEcRUNNING MAN
bHAND TELEPHONE RECEIVERbLOW PARAPHRASE BRACKETbNORMAL FACTOR SEMIDIRECT PRODUCTbONE EIGHTH BLOCK
cQUARTER BLOCKbOPEN SQUARED DOTbOUTER JOINbPARENTHESISbPARENTHESIS EXTENSIONcLOWER HOOKcUPPER HOOK
bRAISED OMISSION BRACKETbS-SHAPED BAG DELIMITERbSEMIDIRECT PRODUCTbSEVEN EIGHTHS BLOCK
bSIDEWAYS U BRACKETbSINGLE QUOTATION MARKbSPEAKERbSPEAKER WITH ONE SOUND WAVEdTHREE SOUND WAVES
bSPEECH BUBBLEbSQUARE BRACKETcBRACKET EXTENSIONdLOWER CORNERdUPPER CORNERdWITH DOUBLE STROKEeQUILL
eSTROKEeTICK IN BOTTOM CORNERgTOP CORNEReUNDERBARbSUBSTITUTION BRACKETbTACK
bTHIRD WHITE RIGHT POINTING INDEXbTHOUGHT BUBBLEbTHREE EIGHTHS BLOCKcQUARTERS BLOCK
bTORTOISE SHELL BRACKETbTRANSPOSITION BRACKETbTRIANGLEbTRIANGLE ABOVE LEFT TRIANGLE
bTRIANGULAR ONE QUARTER BLOCKbVERTICAL BAR WITH QUILLcBOX LINEbWHITE CORNER BRACKETcCURLY BRACKET
cLENTICULAR BRACKETcPARENTHESIScSQUARE BRACKETcTORTOISE SHELL BRACKETbWIGGLY FENCE
aRIGHT-FACING ARMENIAN ETERNITY SIGNcFISTcSVASTI SIGNdSIGN WITH DOTSbHANDED INTERLACED PENTAGRAM
bPOINTING ANGLE BRACKETcCURVED ANGLE BRACKETcDOUBLE ANGLE QUOTATION MARKcMAGNIFYING GLASS
bSHADED WHITE RIGHTWARDS ARROWbSIDE ARC CLOCKWISE ARROWbTO-LEFT EMBEDDINGdISOLATEdMARKdOVERRIDE
aRIGHTHAND INTERIOR PRODUCTaRIGHTWARDS ARROWbARROW ABOVE ALMOST EQUAL TOdREVERSE ALMOST EQUAL TO
eTILDE OPERATORdSHORT LEFTWARDS ARROWdTILDE OPERATORcAND UPPER AND LOWER ONE EIGHTH BLOCKcFROM BAR
dBAR TO BLACK DIAMONDcOVER LEFTWARDS ARROWcTHROUGH GREATER-THANdSUPERSETdXcTO BARdBLACK DIAMOND
cWITH CORNER DOWNWARDSdDOTTED STEMdDOUBLE VERTICAL STROKEdEQUILATERAL ARROWHEADdHOOK
dLARGE TRIANGLE ARROWHEADdLOOPdMEDIUM TRIANGLE ARROWHEADdNOTCHED TAILdPLUS BELOW
dSMALL EQUILATERAL ARROWHEADeTRIANGLE ARROWHEADdSTROKEdTAILdTAIL WITH DOUBLE VERTICAL STROKE
fVERTICAL STROKEdTIP DOWNWARDSeUPWARDSdVERTICAL STROKEbARROW-TAILbBACK-TILTED SHADOWED WHITE ARROW
bBLACK ARROWcCIRCLED WHITE ARROWbBOTTOM SHADED WHITE ARROWbCOMPRESSED ARROWbDASHED ARROW
bDOUBLE ARROWcARROW FROM BARdWITH STROKEeVERTICAL STROKEcARROW-TAILcDASH ARROWbFINGER-POST ARROW
bFRONT-TILTED SHADOWED WHITE ARROWbHANDbHARPOON OVER LEFTWARDS HARPOON
cWITH BARB DOWN ABOVE LEFTWARDS HARPOON WITH BARB DOWNfBELOW LONG DASHfFROM BARfTO BAReDOWNWARDS
eUP ABOVE LEFTWARDS HARPOON WITH BARB UPgLONG DASHgRIGHTWARDS HARPOON WITH BARB DOWNfFROM BARfTO BAR
eUPWARDSbHEAVY ARROWcCOMPRESSED ARROWbLEFT-SHADED WHITE ARROWbOPEN-HEADED ARROWbPAIRED ARROWS
bQUADRUPLE ARROWbRIGHT-SHADED WHITE ARROWbROCKETbSANS-SERIF ARROWbSQUARED ARROWbSQUIGGLE ARROW
bTOP SHADED WHITE ARROWbTRIANGLE ARROWHEADbTRIANGLE-HEADED ARROW
dARROW OVER LEFTWARDS TRIANGLE-HEADED ARROWeTO BAReWITH BOLD SHAFTfDOUBLE HORIZONTAL STROKE
gVERTICAL STROKEfHEAVY SHAFTfLONG TIP DOWNWARDShUPWARDSfMEDIUM SHAFTfNARROW SHAFTfVERY HEAVY SHAFT
dDASHED ARROWdPAIRED ARROWSbTRIPLE ARROWcDASH ARROWbTWO HEADED ARROWbTWO-HEADED ARROW FROM BAR
eWITH DOUBLE VERTICAL STROKEfTAILfTAIL WITH DOUBLE VERTICAL STROKEhVERTICAL STROKE
fTRIANGLE ARROWHEADSfVERTICAL STROKEdTRIPLE DASH ARROWbWAVE ARROWbWHITE ARROWcARROW FROM WALL
dWITHIN TRIANGLE ARROWHEADaRINGaRING ABOVEbBUOYbEQUAL TObIN EQUAL TObOPERATORbPOINTaRINGED PLANET
aRINGING BELLaRISING DIAGONAL CROSSING FALLING DIAGONALdSOUTH EAST ARROWaRLEaRLIaRLMaRLO
aROASTED SWEET POTATOaROBOT FACEaROCKaROCKETaROLL OF PAPERaROLLED-UP NEWSPAPERaROLLER COASTERbSKATE
aROLLING ON THE FLOOR LAUGHINGaROMAN AS SIGNbCENTURIAL SIGNbDENARIUS SIGNbDIMIDIA SEXTULA SIGN
bDUPONDIUS SIGNbNUMERAL EIGHTcELEVENcFIFTYcFIFTY EARLY FORMdTHOUSANDcFIVEcFIVE HUNDREDdTHOUSANDcFOUR
cNINEcONEcONE HUNDREDdHUNDRED THOUSANDdTHOUSANDdTHOUSAND C DcREVERSED ONE HUNDREDcSEVENcSIX
cSIX LATE FORMcTENcTEN THOUSANDcTHREEcTWELVEcTWObQUINARIUS SIGNbSEMUNCIA SIGNbSESTERTIUS SIGN
bSEXTANS SIGNbSEXTULA SIGNbSILIQUA SIGNbUNCIA SIGNaROOSTERaROSEaROSETTEaROTATED CAPITAL Q
bFLORAL HEART BULLETbHEAVY BLACK HEART BULLETbLIGHT FOUR POINTED BLACK CUSPbWHITE FOUR POINTED CUSP
aROUND PUSHPINbTARGETaROUNDED SYMBOL FOR CAIdFUdLUdSHOUdSHUANGXIdXIaROWBOATaRSaRUBLE SIGN
aRUGBY FOOTBALLaRULE-DELAYEDaRUMI DIGIT EIGHTcFIVEcFOURcNINEcONEcSEVENcSIXcTHREEcTWO
bFRACTION ONE HALFdQUARTERdTHIRDcTWO THIRDSbNUMBER EIGHT HUNDREDcEIGHTYcFIFTYcFIVE HUNDREDcFORTY
cFOUR HUNDREDcNINE HUNDREDcNINETYcONE HUNDREDcSEVEN HUNDREDcSEVENTYcSIX HUNDREDcSIXTYcTENcTHIRTY
cTHREE HUNDREDcTWENTYcTWO HUNDREDaRUNIC ARLAUG SYMBOLbBELGTHOR SYMBOLbCROSS PUNCTUATIONbLETTER AC A
cAESCcALGIZ EOLHXcANSUZ AcBERKANAN BEORC BJARKAN BcCcCALCcCEALCcCENcCWEORTHcDcDAGAZ DAEG DcDOTTED-L
dNdPcEcEARcEHWAZ EH EcENGcETHcFEHU FEOH FE FcFRANKS CASKET ACeAESCeEHeISeOScGcGARcGEBO GYFU GcGER
cHAEGL HcHAGLAZ HcICELANDIC-YRcINGcINGWAZcIORcISAZ IS ISS IcIWAZ EOHcJERAN JcKcKAUN KcKAUNA
cLAUKAZ LAGU LOGR LcLONG-BRANCH-AR AEeHAGALL HeMADR MeOSS OeYRcMANNAZ MAN McNAUDIZ NYD NAUD NcOcOE
cONcOOcOPEN-PcOS OcOTHALAN ETHEL OcPERTHO PEORTH PcQcRAIDO RAD REID RcSHcSHORT-TWIG-AR AeBJARKAN B
eHAGALL HeMADR MeNAUD NeOSS OeSOL SeTYR TeYRcSIGEL LONG-BRANCH-SOL ScSOWILO ScSTAN
cTHURISAZ THURS THORNcTIWAZ TIR TYR TcURUZ UR UcVcWcWUNJO WYNN WcXcYcYRcZbMULTIPLE PUNCTUATION
bSINGLE PUNCTUATIONbTVIMADUR SYMBOLaRUNNERaRUNNING SHIRT WITH SASHaRUPEE SIGN
aRUSSIAN ASTROLOGICAL SYMBOL BINOVILEdNOVILEdQUINTILEdSENTAGONdTREDECILEdVIGINTILEaS IN TRIANGLE
aSAFETY PINbVESTaSAGITTARIUSaSAILBOATaSAKE BOTTLE AND CUPaSALT SHAKERaSALTIREaSALUTING FACE
aSAMARITAN ABBREVIATION MARKbLETTER ALAFcBAAcBITcDALATcFIcGAMANcINcITcIYcKAAFcLABATcMIMcNUNcQUFcRISH
cSHANcSINGAATcTAAFcTITcTSAADIYcYUTcZENbMARK DAGESHcEPENTHETIC YUTcINcIN-ALAFcNEQUDAAcOCCLUSION
bMODIFIER LETTER EPENTHETIC YUTdIdSHORT AbPUNCTUATION AFSAAQcANGEDcANNAAUcARKAANUcATMAAUcBAU
cMELODIC QITSAcNEQUDAAcQITSAcSHIYYAALAAcSOF MASHFAATcTURUcZAEFcZIQAAbVOWEL SIGN AdAAdEdIdLONG AeAAeE
eIeUdOdOVERLONG AeAAdSHORT AdSUKUNdUaSANDWICHaSANS-SERIF HEAVY DOUBLE COMMA QUOTATION MARK ORNAMENT
eTURNED COMMA QUOTATION MARK ORNAMENTdLOW DOUBLE COMMA QUOTATION MARK ORNAMENTcINTERROBANG ORNAMENT
aSARIaSATELLITEaSATELLITE ANTENNAaSATURNaSAURASHTRA CONSONANT SIGN HAARUbDANDAbDIGIT EIGHTcFIVEcFOUR
cNINEcONEcSEVENcSIXcTHREEcTWOcZERObDOUBLE DANDAbLETTER AcAAcAIcAUcBAcBHAcCAcCHAcDAcDDAcDDHAcDHAcEcEE
cGAcGHAcHAcIcIIcJAcJHAcKAcKHAcLAcLLAcMAcNAcNGAcNNAcNYAcOcOOcPAcPHAcRAcSAcSHAcSSAcTAcTHAcTTAcTTHAcU
cUUcVAcVOCALIC LdLLdRdRRcYAbSIGN ANUSVARAcCANDRABINDUcVIRAMAcVISARGAbVOWEL SIGN AAdAIdAUdEdEEdIdIIdO
dOOdUdUUdVOCALIC LeLLeReRRaSAUROPODaSAXOPHONEaSCALESaSCARFaSCHOOLaSCHOOL SATCHELaSCIaSCOOTER
aSCORPIONaSCORPIUSaSCREENaSCREWDRIVERaSCRIPT CAPITAL BcEcFcHcIcLcMcPcRbLIGATURE ET ORNAMENTbSMALL E
cGcLcOaSCROLLaSCRUPLEaSEALaSEATaSECOND PLACE MEDALaSECTION SIGNaSECTORaSEDNAaSEE-NO-EVIL MONKEY
aSEEDLINGaSEGMENTaSEGMENTED DIGIT EIGHTcFIVEcFOURcNINEcONEcSEVENcSIXcTHREEcTWOcZEROaSELFIEaSEMICOLON
aSEMIDIRECT PRODUCT WITH BOTTOM CLOSEDaSEMISEXTILEaSEPARATED SYMBOL
aSERIOUS FACE WITH SYMBOLS COVERING MOUTHaSERVICE MARKaSESAME DOTaSESQUIQUADRATEaSET MINUS
bTRANSMIT STATEaSEWING NEEDLEaSEXTILEaSGCaSHADOWED WHITE CIRCLEcLATIN CROSScSTARaSHALLOW PAN OF FOOD
aSHAMROCKaSHARADA ABBREVIATION SIGNbCONTINUATION SIGNbDANDAbDIGIT EIGHTcFIVEcFOURcNINEcONEcSEVENcSIX
cTHREEcTWOcZERObDOUBLE DANDAbEKAMbEXTRA SHORT VOWEL MARKbHEADSTROKEbLETTER AcAAcAIcAUcBAcBHAcCAcCHA
cDAcDDAcDDHAcDHAcEcGAcGHAcHAcIcIIcJAcJHAcKAcKHAcLAcLLAcMAcNAcNGAcNNAcNYAcOcPAcPHAcRAcSAcSHAcSSAcTA
cTHAcTTAcTTHAcUcUUcVAcVOCALIC LdLLdRdRRcYAbOMbSANDHI MARKbSECTION MARK-1d2bSEPARATORbSIGN ANUSVARA
cAVAGRAHAcCANDRABINDUcINVERTED CANDRABINDUcJIHVAMULIYAcNUKTAcSIDDHAMcUPADHMANIYAcVIRAMAcVISARGA
bSUTRA MARKbVOWEL MODIFIER MARKcSIGN AAdAIdAUdEdIdIIdOdPRISHTHAMATRA EdUdUUdVOCALIC LeLLeReRRaSHARK
aSHAVED ICEaSHAVIAN LETTER ADOcAGEcAHcAIRcAREcARRAYcASHcAWEcBIBcCHURCHcDEADcEARcEATcEGGcERRcFEEcGAG
cHA-HAcHUNGcIANcICEcIFcJUDGEcKICKcLOLLcMEASUREcMIMEcNUNcOAKcOILcONcOOZEcORcOUTcPEEPcROARcSOcSURE
cTHEYcTHIGHcTOTcUPcVOWcWOEcWOOLcYEAcYEWcZOOaSHEEPaSHIELDaSHIFT INbOUTaSHINTO SHRINEaSHIP
aSHOCKED FACE WITH EXPLODING HEADaSHOOTING STARaSHOPPING BAGSbTROLLEYaSHORT BACKSLANTED SOUTH ARROW
bBENT ARROW POINTING DOWNWARDS THEN NORTH EASTbDOWN TACKcTACK WITH OVERBARbLEFT TACK
bRIGHTWARDS ARROW ABOVE LEFTWARDS ARROWbSLANTED NORTH ARROWbUP TACKcTACK ABOVE SHORT DOWN TACK
dWITH UNDERBARaSHORTCAKEaSHORTHAND FORMAT CONTINUING OVERLAPcDOWN STEPcLETTER OVERLAPcUP STEPaSHORTS
aSHOULDERED OPEN BOXaSHOWERaSHRIMPaSHRUGaSHUFFLE PRODUCTaSHYaSIaSIDDHAM DANDAbDOUBLE DANDA
bEND OF TEXT MARKbLETTER AcAAcAIcALTERNATE UcAUcBAcBHAcCAcCHAcDAcDDAcDDHAcDHAcEcGAcGHAcHAcIcIIcJA
cJHAcKAcKHAcLAcMAcNAcNGAcNNAcNYAcOcPAcPHAcRAcSAcSHAcSSAcTAcTHAcTHREE-CIRCLE ALTERNATE IcTTAcTTHA
cTWO-CIRCLE ALTERNATE IfIIcUcUUcVAcVOCALIC LdLLdRdRRcYAbREPETITION MARK-1d2d3
bSECTION MARK DOUBLE RINGeRING WITH RAYSdWITH CIRCLES AND FOUR ENCLOSURESgRAYSgTWO ENCLOSURES
eDOUBLE CRESCENTSeQUADRUPLE CRESCENTSeRAYS AND DOTTED CRESCENTShDOUBLE CRESCENTShTRIPLE CRESCENTS
eSEPTUPLE CRESCENTSeTRIDENT AND DOTTED CRESCENTSgU-SHAPED ORNAMENTSeTRIPLE CRESCENTSbSEPARATOR BAR
cDOTbSIGN ANUSVARAcCANDRABINDUcNUKTAcSIDDHAMcVIRAMAcVISARGAbVOWEL SIGN AAdAIdALTERNATE UeUUdAUdEdI
dIIdOdUdUUdVOCALIC ReRRaSIDEWAYS BLACK DOWN POINTING INDEXcLEFT POINTING INDEXcRIGHT POINTING INDEX
cUP POINTING INDEXbWHITE DOWN POINTING INDEXcLEFT POINTING INDEXcRIGHT POINTING INDEX
cUP POINTING INDEXaSIGN OF THE HORNSaSIGNWRITING AIR BLOW SMALL ROTATIONScBLOWING OUT
cSUCK SMALL ROTATIONScSUCKING INbBREATH EXHALEcINHALEbBRUSH BETWEENcMULTIPLEcSINGLEbCHEEKS NEUTRAL
cPUFFEDcSUCKEDbCOLONbCOMMAbDREAMY EYEBROWS DOWN NEUTRALdNEUTRAL DOWNeUPdUP NEUTRAL
bDYNAMIC ARROWHEAD LARGEdSMALLcEVERY OTHER TIMEcFASTcGRADUALcRELAXEDcSIMULTANEOUS
cSIMULTANEOUS ALTERNATINGcSLOWcTENSEbEARSbEXCITEMENTbEYE BLINK MULTIPLEdSINGLEcWINK
bEYEBROWS STRAIGHT DOWNdNEUTRALdUPbEYEGAZE-FLOORPLANE CURVEDdSTRAIGHTdSTRAIGHT ALTERNATINGeDOUBLE
cWALLPLANE CIRCLINGdCURVEDdSTRAIGHTdSTRAIGHT ALTERNATINGeDOUBLEbEYELASHES DOWNcFLUTTERINGcUP
bEYES CLOSEDcHALF CLOSEDdOPENcOPENcSQUEEZEDcWIDE OPENcWIDENING MOVEMENT
bFACE DIRECTION POSITION NOSE FORWARD TILTINGfUP OR DOWNhDOWN TILTINGbFILL MODIFIER-2d3d4d5d6bFINGER
bFLICK LARGE MULTIPLEdSINGLEcSEQUENTIALcSMALL MULTIPLEdSINGLEbFLOORPLANE SHOULDER HIP MOVE
bFOREHEAD CONTACTcNEUTRALcWRINKLEDbFULL STOPbGRASP BETWEENcMULTIPLEcSINGLEbHAIRbHAND-ANGLE
cANGLE INDEXdINDEX MIDDLE LITTLEfRINGeRING LITTLEfLITTLE OUTeTHUMBeTHUMB INfOUTdLITTLE INDEX
eINDEX THUMB INDEX THUMBhTHUMB OUTeUPdMIDDLE RING LITTLEfLITTLE INgOUT
dRING DOWN MIDDLE THUMB INDEX CROSSeLITTLEcCIRCLEcCIRCLE INDEXdINDEX BENTeHINGEeMIDDLE
eMIDDLE CROSS LITTLEfCROSSEDfLITTLEfRINGfTHUMBeRING LITTLEdLITTLE INDEXeUPdMIDDLE RING LITTLE
fLITTLE BENTeUPdRING LITTLEcCLAWcCLAW FOUR FINGERS CONJOINEDdINDEX THUMB CURVE THUMB INSIDE
dMIDDLE RING LITTLE CONJOINEDgCONJOINED SIDEdNO THUMBdTHUMB FORWARDeSIDEcCUPcCUP FIVE FINGERS SPREAD
fSPREAD OPENdINDEXdINDEX RING LITTLEeTHUMBeTHUMB OPENdMIDDLE RING LITTLEdNO THUMBdOPENdOPEN NO THUMB
eTHUMB FORWARDfSIDEdTHUMB FORWARDeSIDEcCURLICUEcCURLICUE INDEX RING LITTLE ONdMIDDLE RING LITTLE ON
dOPENcFISTcFIST FOUR FINGERS CONJOINED BENTdHEELdINDEXdINDEX BENTeBENT OVER MIDDLEeCUPPEDeHINGED
eHINGED LOWfMIDDLE UPgUP THUMB SIDEeMIDDLEeMIDDLE BENTfBENT THUMB STRAIGHTfCONJOINED
fCONJOINED CUPPEDgCUPPED THUMB FORWARDgHINGEDgHINGED THUMB SIDEgINDEX BENTgMIDDLE BENTgTHUMB FORWARD
hSIDEhSIDE BENTiCONJOINEDfCROSS LITTLEfCROSSEDfCROSSED THUMB SIDEfHINGEDfHINGED SPREAD THUMB SIDE
fLITTLEfRAISED KNUCKLESfRINGfRING BENTgCONJOINEDfSTRAIGHT THUMB BENTfTHUMBfTHUMB ANGLEDgANGLED OUT
gBENTgCIRCLEDgCONJOINED HINGEDgCUPPEDgHINGEDgHOOKEDfUP SPREAD THUMB FORWARDeRAISED KNUCKLE
eRING LITTLEeTHUMB ANGLED IN MIDDLE UPgOUT MIDDLE UPfCIRCLEfCIRCLED MIDDLE UPfCUPPED MIDDLE UP
fCURLICUEfCURVE THUMB INSIDEhUNDERfFORWARD INDEX BENThSTRAIGHTfHOOKfHOOKED MIDDLE HINGEDhUPfSIDE
fSIDE BOTH BENTgINDEX BENThHINGEgTHUMB BENThCONJOINEDhDIAGONALeUP MIDDLE HINGED
gHINGED THUMB CONJOINEDiSIDEdLITTLE BENTeDOWNeDOWN OTHERS CIRCLEDfRIPPLE CURVEDgSTRAIGHTeINDEX
eINDEX THUMBeRAISED KNUCKLEeTHUMBeTOUCHES THUMBeUPdMIDDLE BENT OVER INDEXeDOWNeLITTLEeRAISED KNUCKLE
eRING LITTLEeTHUMB ANGLED INDEX UPgOUT INDEX CROSSEDiUPfCIRCLED INDEX HINGEDhUPfCUPPED INDEX UP
fHOOKED INDEX UPfLITTLEeUPeUP THUMB SIDEdRING DOWNeINDEXeLITTLEeMIDDLEeMIDDLE CONJOINED
fRAISED KNUCKLESeRAISED KNUCKLEeTHUMBeUPdTHUMBdTHUMB BETWEEN INDEX MIDDLEgMIDDLE STRAIGHT
fMIDDLE RINGfRING LITTLEeFORWARDeHEELeOVER FOUR RAISED KNUCKLESfTWO FINGERSeSIDE BENTfCONJOINED
fDIAGONALeUNDER FOUR FINGERSfINDEX BENTfLITTLE UPfTHREE FINGERSfTWO FINGERScFLAT
cFLAT BETWEEN PALM FACINGSdFIVE FINGERS SPREADfSPREAD BENTgFOUR BENTgHINGEDgHINGED NO THUMB
hTHUMB SIDEgTHUMB FORWARDdFOUR FINGERSeFINGERS BENTfCONJOINEDfCONJOINED SPLITfHINGEDdHEEL
dHEEL FIVE FINGERS SPREADgSPREAD BENThFOUR BENTeTHUMB SIDEdSPLIT CENTREeCENTRE THUMB SIDEgSIDE BENT
eINDEX THUMB SIDEeLITTLEdTHUMB BENTeFORWARDeSIDEcHINGEcHINGE FIVE FINGERS SPREAD OPEN
dFOUR FINGERS CONJOINEDdINDEXdINDEX HINGEDeMIDDLE LITTLEfRINGfRING CONJOINEDeRING LITTLEeTHUMB
eTHUMB LARGEfOPENfSIDEfSMALLdLITTLEdLITTLE INDEXeINDEX THUMBeTHUMBdMIDDLEdMIDDLE RING LITTLE
dNO THUMBdOPENdOPEN NO THUMBeTHUMB FORWARDfSIDEdRINGdRING DOWN INDEX THUMB HOOK MIDDLEdSMALL
dTHUMB BETWEEN MIDDLE RINGeSIDEeSIDE TOUCHING INDEXcHOOKcHOOK CURLICUEdINDEX RING LITTLE INgOUT
gUNDERdMIDDLE RING LITTLE CONJOINEDgCONJOINED INhOUTeTHUMBdRING THUMBcOVALcOVAL FIVE FINGERS SPREAD
dINDEXdLITTLE UPdNO THUMBdRING LITTLEdTHUMB FORWARDeSIDEbHEADbHEAD MOVEMENT CIRCLE
cMOVEMENT-FLOORPLANE CURVEeSTRAIGHTdWALLPLANE CURVEeSTRAIGHTeTILTcRIMbLIMB COMBINATIONcLENGTH-1d2d3
d4d5d6d7bLIP LOWER OVER UPPERcUPPER OVER LOWERbLIPS PRESSED TOGETHERbLOCATION DEPTHcHEAD NECKcHEIGHT
cLIMBS DIGITScTORSOcWIDTHbLOCATION-FLOORPLANE SPACEcWALLPLANE SPACEbMOUTH CLOSED CONTACTdFORWARD
dNEUTRALcCORNERScFROWNcFROWN OPENdWRINKLEDcKISScKISS FORWARDdWRINKLEDcOPEN CIRCLEdFORWARDdOVAL
dOVAL WRINKLEDeYAWNdRECTANGLEdRECTANGLE WRINKLEDeYAWNdWRINKLEDcSMILEcSMILE OPENdWRINKLEDcTENSE
cTENSE FORWARDdSUCKEDcWRINKLES DOUBLEdSINGLEbMOVEMENT-DIAGONAL AWAY LARGEeLARGESTeMEDIUMeSMALL
dBETWEEN AWAY LARGEfLARGESTfMEDIUMfSMALLeTOWARDS LARGEfLARGESTfMEDIUMfSMALLdTOWARDS LARGEeLARGEST
eMEDIUMeSMALLcFLOORPLANE ARM CIRCLE HITTING WALL LARGE DOUBLEiSINGLEhMEDIUM DOUBLEiSINGLE
hSMALL DOUBLEiSINGLEdBENDdBOX LARGEeMEDIUMeSMALLdCHECKdCORNER LARGEeMEDIUMeSMALLdCROSS
dCURVE COMBINEDeHITTING CEILING LARGEgSMALLfFLOOR LARGEgSMALLeLARGEeLARGESTeMEDIUMeSMALL
dDOUBLE ALTERNATINGeALTERNATING WRIST FLEXeSTRAIGHTeWRIST FLEXdFINGER CIRCLES HITTING WALL DOUBLE
hSINGLEeCONTACTdHUMP HITTING CEILING LARGE DOUBLEhTRIPLEgSMALL DOUBLEhTRIPLEfFLOOR LARGE DOUBLE
gSMALL DOUBLEgTRIPLE LARGE TRIPLEhSMALL TRIPLEeSMALLdJAWdLOOP HITTING CEILING LARGE DOUBLEhSINGLE
gSMALL DOUBLEhSINGLEfFLOOR LARGE DOUBLEhSINGLEgSMALL DOUBLEhSINGLEeSMALLdPEAKS LARGEeMEDIUMeSMALL
dSHAKING PARALLELdSINGLE STRAIGHT LARGEfLARGESTfMEDIUMfSMALLeWRIST FLEXdTRIPLE ALTERNATING MOVEMENT
fWRIST FLEXeSTRAIGHT MOVEMENTeWRIST FLEXdWAVE HITTING CEILING LARGEgSMALLfFLOOR LARGEgSMALLeLARGE
eSMALLeSNAKEdWRIST CIRCLE HITTING WALL DOUBLEhSINGLEdZIGZAG LARGEeMEDIUMeSMALLcHINGE DOWN SEQUENTIAL
dSIDE TO SIDE SCISSORSdUP DOWN ALTERNATING LARGEgSMALLfLARGEfSMALLeSEQUENTIAL
cWALLPLANE ARM CIRCLE MEDIUM DOUBLEgSINGLEfSMALL DOUBLEgSINGLEdBEND LARGEeMEDIUMeSMALLdBOX LARGE
eMEDIUMeSMALLdCHECK LARGEeMEDIUMeSMALLdCORNER LARGEeMEDIUMeROTATIONeSMALLdCROSS
dCURVE HALF-CIRCLE LARGEgLARGESTgMEDIUMgSMALLeHITTING CHESTfFRONT WALLeQUARTER LARGEfLARGESTfMEDIUM
fSMALLeTHEN STRAIGHTeTHREE-QUARTER CIRCLE MEDIUMhSMALLdCURVED CROSS MEDIUMfSMALLdDOUBLE ALTERNATING
eALTERNATING WRIST FLEXeSTRAIGHTeWRIST FLEXdFINGER CIRCLES DOUBLEfSINGLEeCONTACTdHUMP HITTING CHEST
fFRONT WALLeLARGEeMEDIUMeSMALLdJAWdLOOP HITTING CHESTfFRONT WALLeLARGEeMEDIUMeSMALLeSMALL DOUBLE
dPEAKS LARGEeMEDIUMeSMALLdSHAKINGdSINGLE STRAIGHT LARGEfLARGESTfMEDIUMfSMALLeWRIST FLEX
dTRIPLE ALTERNATINGeALTERNATING WRIST FLEXeSTRAIGHT MOVEMENTeWRIST FLEXdWAVE CURVE DOUBLE LARGE
gMEDIUMgSMALLfTRIPLE LARGEgMEDIUMgSMALLeDIAGONAL PATH LARGEgMEDIUMgSMALLeHITTING CHESTfFRONT WALL
dWRIST CIRCLE FRONT DOUBLEgSINGLEdZIGZAG LARGEeMEDIUMeSMALLbNECKbNOSE CONTACTcNEUTRALcWIGGLES
cWRINKLESbPARENTHESISbROTATION MODIFIER-10d11d12d13d14d15d16d2d3d4d5d6d7d8d9
bROTATION-FLOORPLANE ALTERNATINGdALTERNATING HITTING CEILINGfFLOORdDOUBLEdDOUBLE HITTING CEILING
fFLOORdSINGLEdSINGLE HITTING CEILINGfFLOORcWALLPLANE ALTERNATEdALTERNATING HITTING CHESTfFRONT WALL
dDOUBLEdDOUBLE HITTING CHESTfFRONT WALLdSINGLEdSINGLE HITTING CHESTfFRONT WALLbRUB BETWEENcMULTIPLE
cSINGLEbSEMICOLONbSHOULDER HIP POSITIONSdSPINEcTILTING FROM WAISTbSQUEEZE FLICK ALTERNATING
cLARGE MULTIPLEdSINGLEcSEQUENTIALcSMALL MULTIPLEdSINGLEbSTRIKE BETWEENcMULTIPLEcSINGLE
bSURFACE BETWEENcSYMBOLSbTEETHbTEETH BITE LIPScMOVEMENTcON LIPSdLIPS MOVEMENTdTONGUEdTONGUE MOVEMENT
bTENSE CHEEKS HIGHdLOWdMIDDLEbTONGUE CENTRE INSIDE MOUTHdSTICKING OUTcINSIDE MOUTH RELAXED
cLICKING LIPScMOVES AGAINST CHEEKcSTICKING OUT FARcTIP BETWEEN LIPSdTOUCHING INSIDE MOUTH
bTORSO-FLOORPLANE TWISTINGcWALLPLANE CURVED BENDdSTRAIGHT STRETCHbTOUCH BETWEENcMULTIPLEcSINGLE
bTRAVEL-FLOORPLANE ROTATION-FLOORPLANE ALTERNATINGfDOUBLEfSINGLEeWALLPLANE ALTERNATINGfDOUBLEfSINGLE
dSHAKINGcWALLPLANE ARM SPIRAL DOUBLEfSINGLEfTRIPLEdROTATION-FLOORPLANE ALTERNATINGfDOUBLEfSINGLE
eWALLPLANE ALTERNATINGfDOUBLEfSINGLEdSHAKINGbUPPER BODY TILTING FROM HIP JOINTS
bWALLPLANE SHOULDER HIP MOVEaSILHOUETTE OF JAPANaSIMILAR ABOVE GREATER-THAN ABOVE EQUALS SIGN
cLESS-THAN ABOVE EQUALS SIGNbMINUS SIMILARbOR GREATER-THANcLESS-THANaSINE WAVE
aSINGLE CHARACTER INTRODUCERbGRAPHIC CHARACTER INTRODUCERbHIGH-REVERSED-9 QUOTATION MARK
bLEFT-POINTING ANGLE QUOTATION MARKbLOW-9 QUOTATION MARKbRIGHT-POINTING ANGLE QUOTATION MARK
bSHIFT THREEcTWOaSINGLE-SHIFT-2c3aSINHALA ARCHAIC DIGIT EIGHTdFIVEdFOURdNINEdONEdSEVENdSIXdTHREEdTWO
cNUMBER EIGHTYdFIFTYdFORTYdNINETYdONE HUNDREDeTHOUSANDdSEVENTYdSIXTYdTENdTHIRTYdTWENTY
bLETTER AAYANNAcAEEYANNAcAEYANNAcAIYANNAcALPAPRAANA BAYANNAdCAYANNAdDAYANNAdDDAYANNAdGAYANNAdJAYANNA
dKAYANNAdPAYANNAdTAYANNAdTTAYANNAcAMBA BAYANNAcAUYANNAcAYANNAcDANTAJA LAYANNAdNAYANNAdSAYANNA
cEEYANNAcEYANNAcFAYANNAcHAYANNAcIIYANNAcILUUYANNAcILUYANNAcIRUUYANNAcIRUYANNAcIYANNA
cKANTAJA NAASIKYAYAcMAHAAPRAANA BAYANNAdCAYANNAdDAYANNAdDDAYANNAdGAYANNAdJAYANNAdKAYANNAdPAYANNA
dTAYANNAdTTAYANNAcMAYANNAcMUURDHAJA LAYANNAdNAYANNAdSAYANNAcOOYANNAcOYANNAcRAYANNAcSANYAKA DAYANNA
dDDAYANNAdGAYANNAdJAYANNAcTAALUJA NAASIKYAYAdSANYOOGA NAAKSIKYAYAdSAYANNAcUUYANNAcUYANNAcVAYANNA
cYAYANNAbLITH DIGIT EIGHTdFIVEdFOURdNINEdONEdSEVENdSIXdTHREEdTWOdZERObPUNCTUATION KUNDDALIYA
bSIGN AL-LAKUNAcANUSVARAYAcCANDRABINDUcVISARGAYAbVOWEL SIGN AELA-PILLAdDIGA AEDA-PILLAeGAETTA-PILLA
eGAYANUKITTAeIS-PILLAeKOMBUVAePAA-PILLAdGAETTA-PILLAdGAYANUKITTAdKETTI AEDA-PILLAeIS-PILLAePAA-PILLA
dKOMBU DEKAdKOMBUVAdKOMBUVA HAA AELA-PILLAfDIGA AELA-PILLAfGAYANUKITTA
aSIX PETALLED BLACK AND WHITE FLORETTEbPOINTED BLACK STARcPINWHEEL STARcSTAR WITH MIDDLE DOT
aSIX-PER-EM SPACEaSIXTEEN POINTED ASTERISKaSKATEBOARDaSKI AND SKI BOOTaSKIERaSKULL
aSKULL AND CROSSBONESaSKUNKaSLANTED EQUAL TO OR GREATER-THANfTHAN WITH DOT INSIDEeLESS-THAN
fTHAN WITH DOT INSIDEbNORTH ARROW WITH HOOKED HEADeHORIZONTAL TAILaSLAVONIC ASTERISKaSLED
aSLEEPING ACCOMMODATIONbFACEbSYMBOLaSLEEPY FACEaSLEUTH OR SPYaSLICE OF PIZZAaSLIGHTLY FROWNING FACE
bSMILING FACEaSLOPEaSLOPING LARGE ANDcORaSLOT MACHINEaSLOTHaSMALL AIRPLANEbAMPERSANDbASTERISK
bBLUE DIAMONDbCOLONbCOMMAbCOMMERCIAL ATbCONTAINS AS MEMBERcWITH OVERBAR
dVERTICAL BAR AT END OF HORIZONTAL STROKEbDOLLAR SIGNbELEMENT OFcOF WITH OVERBAR
eVERTICAL BAR AT END OF HORIZONTAL STROKEbEM DASHbEQUALS SIGNbEXCLAMATION MARKbFULL STOP
bGREATER-THAN SIGNbHYPHEN-MINUSbIDEOGRAPHIC COMMAbLEFT CURLY BRACKETcPARENTHESIS
cTORTOISE SHELL BRACKETbLESS-THAN SIGNbNUMBER SIGNbORANGE DIAMONDbPERCENT SIGNbPLUS SIGN
bQUESTION MARKbREVERSE SOLIDUSbRIGHT CURLY BRACKETcPARENTHESIScTORTOISE SHELL BRACKET
bROMAN NUMERAL EIGHTdELEVENdFIFTYdFIVEdFIVE HUNDREDdFOURdNINEdONEdONE HUNDREDeTHOUSANDdSEVENdSIXdTEN
dTHREEdTWELVEdTWObSEMICOLONbTILDEbTWO DOTS OVER ONE DOT PUNCTUATIONbVEE WITH UNDERBARaSMALLER THAN
bTHAN OR EQUAL TOaSMASH PRODUCTaSMILEaSMILING CAT FACE WITH HEART-SHAPED EYESeOPEN MOUTH
bFACE WITH HALOdHEART-SHAPED EYESdHORNSdOPEN MOUTHeMOUTH AND COLD SWEATgSMILING EYES
gTIGHTLY-CLOSED EYESdSMILING EYESeEYES AND HAND COVERING MOUTHgTHREE HEARTSdSUNGLASSESdTEAR
aSMIRKING FACEaSMOKING SYMBOLaSNAILaSNAKEaSNEEZING FACEaSNOW CAPPED MOUNTAINaSNOWBOARDERaSNOWFLAKE
aSNOWMANaSNOWMAN WITHOUT SNOWaSOaSOCCER BALLaSOCKSaSOFT HYPHENbICE CREAMbSHELL FLOPPY DISKaSOFTBALL
aSOFTWARE-FUNCTION SYMBOLaSOGDIAN COMBINING CURVE ABOVEdBELOWcDOT ABOVEdBELOWcHOOK ABOVEdBELOW
cLONG HOOK BELOWcRESH BELOWcSTROKE BELOWcTWO DOTS ABOVEeBELOWbINDEPENDENT SHINbLETTER ALEPHcAYIN
cBETHcFETHcGIMELcHEcHETHcKAPHcLAMEDHcLESHcMEMcNUNcPEcRESH-AYINcSADHEcSAMEKHcSHINcTAWcWAWcYODHcZAYIN
bNUMBER ONEcONE HUNDREDcTENcTWENTYbPUNCTUATION CIRCLE WITH DOTcHALF CIRCLE WITH DOT
cTWO CIRCLES WITH DOTSdVERTICAL BARSeBARS WITH DOTSaSOHaSOLID QUILT SQUARE ORNAMENT
dORNAMENT IN BLACK SQUAREaSOLIDUSaSOLIDUS WITH OVERBARaSOM SIGNaSOON WITH RIGHTWARDS ARROW ABOVE
aSORA SOMPENG DIGIT EIGHTdFIVEdFOURdNINEdONEdSEVENdSIXdTHREEdTWOdZEROcLETTER AHdBAHdCAHdDAHdEEHdEH
dGAHdHAHdIHdJAHdKAHdLAHdMAEdMAHdNAHdNGAHdNYAHdOHdPAHdRAHdSAHdTAHdUHdVAHdYAHaSOS
aSOUND RECORDING COPYRIGHTaSOUTH EAST ARROWcARROW AND SOUTH WEST ARROWdCROSSING NORTH EAST ARROW
dTO CORNERdWITH HOOKcBLACK ARROWcDOUBLE ARROWcPOINTING BUDdLEAFdVINE LEAFcSANS-SERIF ARROW
cTRIANGLE-HEADED ARROWeARROW TO BARcWHITE ARROWbWEST ARROWcARROW AND NORTH WEST ARROWdWITH HOOK
cBLACK ARROWcDOUBLE ARROWcPOINTING BUDdLEAFdVINE LEAFcSANS-SERIF ARROWcTRIANGLE-HEADED ARROW
eARROW TO BARcWHITE ARROWaSOYOMBO CLUSTER-INITIAL LETTER LAeRAeSAeSHAbFINAL CONSONANT SIGN -AeBeDeG
eKeLeMeNeNGeReSeSHbGEMINATION MARKbHEAD MARK WITH MOON AND SUNgSUN AND FLAMEiTRIPLE FLAMEbLETTER -A
cAcBAcBHAcCAcCHAcDAcDDAcDDHAcDHAcDZAcGAcGHAcHAcJAcJHAcKAcKHAcKSSAcLAcMAcNAcNGAcNNAcNYAcPAcPHAcRAcSA
cSHAcSSAcTAcTHAcTSAcTSHAcTTAcTTHAcVAcYAcZAcZHAbMARK DOUBLE SHADcPLUTAcSHADcTSHEGbSIGN ANUSVARA
cJIHVAMULIYAcUPADHMANIYAcVISARGAbSUBJOINERbTERMINAL MARK-1d2bVOWEL LENGTH MARKcSIGN AIdAUdEdIdOdOEdU
dUEdVOCALIC LeRaSPaSPAaSPACEaSPAGHETTIaSPARKLEaSPARKLESaSPARKLING HEARTaSPEAK-NO-EVIL MONKEYaSPEAKER
aSPEAKER WITH CANCELLATION STROKEcONE SOUND WAVEcTHREE SOUND WAVESaSPEAKING HEAD IN SILHOUETTE
aSPEECH BALLOONaSPEEDBOATaSPESMILO SIGNaSPHERICAL ANGLEbANGLE OPENING LEFTdUPaSPIDERaSPIDER WEB
aSPIRAL CALENDAR PADbNOTE PADbSHELLaSPLASHING SWEAT SYMBOLaSPONGEaSPOOL OF THREADaSPOONaSPORTS MEDAL
aSPOUTING WHALEaSQUARE A OVER MbAARUbAMbANPEAbAPAATObARUHUAbAUbBAARERUbBARbBEETAbBIRUbBORUTObBQ
bBUSSYERUbC OVER KGbCALbCAPbCCbCDbCMbCM CUBEDcSQUAREDbCObCORPORATIONbCUPbDAbDAASUbDBbDESIbDJbDLbDM
bDM CUBEDcSQUAREDbDORUbEEKAAbERA NAME HEISEIdMEIZIdREIWAdSYOUWAdTAISYOUbERGbESUKUUDObEVbFMbFOOT
bFOUR CORNERSbGALbGANMAbGARONbGBbGHZbGIGAbGINIIbGIRUDAAbGPAbGURAMUbGURAMUTONbGYbHAbHAITUbHEKUTAARU
bHERUTUbHGbHIRAGANA HOKAbHONbHOONbHOORUbHPbHPAbHUARADDObHUIITObHURANbHZbIMAGE OFcOF OR EQUAL TO
eNOT EQUAL TObINbININGUbINTIbIUbK OHMbKAbKAIRIbKARATTObKARORIIbKBbKCALbKEESUbKGbKHZbKIRObKIROGURAMU
bKIROMEETORUbKIROWATTObKKbKLbKMbKM CAPITALcCUBEDcSQUAREDbKOOPObKORUNAbKPAbKTbKUROONEbKURUZEIRObKVbKW
bKYURIIbLEFT OPEN BOX OPERATORbLMbLNbLOGbLOZENGEbLXbM CUBEDcOHMcOVER SdS SQUAREDcSQUAREDbMAbMAHHA
bMAIKURObMAIRUbMANSYONbMARUKUbMBbMB SMALLbMEETORUbMEGAbMEGATONbMGbMHZbMIKURONbMILbMIRIbMIRIBAARUbML
bMMbMM CUBEDcSQUAREDbMOLbMPAbMSbMU AcFcGcLcMcScVcWbMVbMV MEGAbMWbMW MEGAbNAbNANObNFbNMbNOTTObNSbNV
bNWbONSUbOOMUbORIGINAL OFcOF OR EQUAL TOeNOT EQUAL TObOVbPAbPA AMPSbPAASENTObPAATUbPCbPEEZIbPENIHI
bPENSUbPESObPFbPHbPIASUTORUbPIKObPIKURUbPMbPOINTObPONDObPOSITION INDICATORbPPMbPRbPSbPVbPWbRAD
bRAD OVER SdS SQUAREDbREMUbRENTOGENbRIGHT OPEN BOX OPERATORbRIRAbRITTORUbROOTbRUPIIbRUUBURUbSAIKURU
bSANTIIMUbSENTIbSENTObSIRINGUbSRbSVbTARGETbTHZbTONbUONbV OVER MbWATTObWBbWITH BOTTOM HALF BLACK
cCONTOURED OUTLINEcDIAGONAL CROSSHATCH FILLcHORIZONTAL FILLcLEFT HALF BLACK
cLOWER LEFT DIAGONAL HALF BLACKdRIGHT DIAGONAL HALF BLACKcORTHOGONAL CROSSHATCH FILL
cRIGHT HALF BLACKcTOP HALF BLACKcUPPER LEFT DIAGONAL HALF BLACKeTO LOWER RIGHT FILL
dRIGHT DIAGONAL HALF BLACKeTO LOWER LEFT FILLcVERTICAL FILLbYAADObYAARUbYUANaSQUARED ASTERISK
bCJK UNIFIED IDEOGRAPH-4E00e4E09e4E2De4E8Ce4EA4e518De521De524De5272e53CCe53F3e5408e5439e55B6e58F0
e591Ae5929e5B57e5DE6e5F8Ce624Be6253e6295e6307e6355e6599e65B0e6620e6708e6709e6E80e6F14e7121e751Fe7533
e7981e7A7Ae7D42e89E3e8CA9e8D70e904Ae914DbCLbCOOLbDOT OPERATORbEIGHT KbFALLING DIAGONAL SLASH
bFIVE POINT ONEbFOUR DOT PUNCTUATIONcKbFREEbHCbHDRbHI-RESbHVbIDbKATAKANA DEcKOKOcSAbKEY
bLATIN CAPITAL LETTER AeBeCeDeEeFeGeHeIeJeKeLeMeNeOePeQeReSeTeUeVeWeXeYeZcSMALL LETTER DbLOGICAL AND
cORbLOSSLESSbMINUSbMVbNEWbNGbOKbONE HUNDRED TWENTY PbPLUSbPPVbRISING DIAGONAL SLASHbSALTIREbSD
bSECOND SCREENbSEVEN POINT ONEbSHVbSIXTY PbSMALL CIRCLEbSOSbSQUAREbSSbTHREE DbTIMES
bTWENTY-TWO POINT TWObTWO KbUHDbUP WITH EXCLAMATION MARKbVODbVSbWCaSQUAT BLACK RIGHTWARDS ARROW
aSQUIDaSS2aSS3aSSAaSTaSTADIUMaSTAFF OF AESCULAPIUScHERMESaSTAMPED ENVELOPEaSTANDING PERSON
aSTAR AND CRESCENTbEQUALSbOF DAVIDbOPERATORbWITH LEFT HALF BLACKcRIGHT HALF BLACK
aSTART OF GUARDED AREAcHEADINGcPROTECTED AREAcSELECTED AREAcSTRINGcTEXTaSTATIONaSTATUE OF LIBERTY
aSTEAM LOCOMOTIVEaSTEAMING BOWLaSTENOGRAPHIC FULL STOPaSTETHOSCOPEaSTICK FIGUREbFIGURE LEANING LEFT
dRIGHTcWITH ARMS RAISEDdDRESSaSTOCK CHARTaSTOPWATCHaSTRAIGHT RULERaSTRAIGHTNESSaSTRAWBERRY
aSTRESS OUTLINED WHITE STARaSTRICTLY EQUIVALENT TOaSTRING TERMINATORaSTSaSTUDIO MICROPHONE
aSTUFFED FLATBREADaSTUPAaSTXaSUBaSUBSCRIPT EIGHTbEQUALS SIGNbFIVEbFOURbLEFT PARENTHESISbMINUSbNINE
bONEbPLUS SIGNbRIGHT PARENTHESISbSEVENbSIXbTHREEbTWObZEROaSUBSET ABOVE RIGHTWARDS ARROWcSUBSET
cSUPERSETbOFbOF ABOVE ALMOST EQUAL TOdEQUALS SIGNdNOT EQUAL TOdTILDE OPERATORcOR EQUAL TO
eTO WITH DOT ABOVEcWITH NOT EQUAL TObWITH DOTcMULTIPLICATION SIGN BELOWcPLUS SIGN BELOWaSUBSTITUTE
aSUCCEEDSaSUCCEEDS ABOVE ALMOST EQUAL TOcEQUALS SIGNcNOT ALMOST EQUAL TOdEQUAL TO
cSINGLE-LINE EQUALS SIGNeNOT EQUAL TObBUT NOT EQUIVALENT TObOR EQUAL TOcEQUIVALENT TObUNDER RELATION
aSUMMATION BOTTOMbTOPbWITH INTEGRALaSUNaSUN BEHIND CLOUDbWITH FACEaSUNDANESE AVAGRAHA
bCONSONANT SIGN PAMINGKALdPANYAKRAdPANYIKUdPASANGAN MAeWAbDIGIT EIGHTcFIVEcFOURcNINEcONEcSEVENcSIX
cTHREEcTWOcZERObLETTER AcAEcBAcBHAcCAcDAcEcEUcFAcFINAL KdMcGAcHAcIcJAcKAcKHAcLAcLEUcMAcNAcNGAcNYAcO
cPAcQAcRAcREUcSAcSYAcTAcUcVAcWAcXAcYAcZAbPUNCTUATION BINDU BA SATANGAdCAKRAdDA SATANGAdKA SATANGA
dLEU SATANGAdPANGLONGdPURNAMAdSURYAbSIGN PAMAAEHcPANGLAYARcPANGWISADcPANYECEKcVIRAMA
bVOWEL SIGN PAMEPETdPANAELAENGdPANEULEUNGdPANGHULUdPANOLONGdPANYUKUaSUNFLOWERaSUNRISE
aSUNRISE OVER MOUNTAINSaSUNSET OVER BUILDINGSaSUPERHEROaSUPERSCRIPT EIGHTbEQUALS SIGNbFIVEbFOUR
bLATIN SMALL LETTER IeNbLEFT PARENTHESISbMINUSbNINEbONEbPLUS SIGNbRIGHT PARENTHESISbSEVENbSIXbTHREE
bTWObZEROaSUPERSET ABOVE LEFTWARDS ARROWcSUBSETcSUPERSETbBESIDE AND JOINED BY DASH WITH SUBSET
cSUBSETbOFbOF ABOVE ALMOST EQUAL TOdEQUALS SIGNdNOT EQUAL TOdTILDE OPERATORcOR EQUAL TO
eTO WITH DOT ABOVEcWITH NOT EQUAL TObPRECEDING SOLIDUSbWITH DOTcMULTIPLICATION SIGN BELOW
cPLUS SIGN BELOWaSUPERVILLAINaSURFACE INTEGRALaSURFERaSUSHIaSUSPENSION RAILWAYaSWAN
aSWASH AMPERSAND ORNAMENTaSWIMMERaSWUNG DASHaSYLOTI NAGRI LETTER AdBHOdBOdCHOdCOdDDHOdDDOdDHOdDOdE
dGHOdGOdHOdIdJHOdJOdKHOdKOdLOdMOdNOdOdPHOdPOdROdRROdSOdTHOdTOdTTHOdTTOdUcPOETRY MARK-1e2e3e4
cSIGN ALTERNATE HASANTAdANUSVARAdDVISVARAdHASANTAcVOWEL SIGN AeEeIeOOeUaSYMBOL FOR ACKNOWLEDGE
cBACKSPACEcBELLcCANCELcCARRIAGE RETURNcDATA LINK ESCAPEcDELETEcDELETE FORM TWOcDEVICE CONTROL FOUR
eONEeTHREEeTWOcEND OF MEDIUMeTEXTeTRANSMISSIONeTRANSMISSION BLOCKcENQUIRYcESCAPEcFILE SEPARATOR
cFORM FEEDcGROUP SEPARATORcHORIZONTAL TABULATIONcLINE FEEDcMARKS CHAPTERcNEGATIVE ACKNOWLEDGE
cNEWLINEcNULLcRECORD SEPARATORcSAMARITAN SOURCEcSHIFT INdOUTcSPACEcSTART OF HEADINGeTEXTcSUBSTITUTE
cSUBSTITUTE FORM TWOcSYNCHRONOUS IDLEcTYPE A ELECTRONICScUNIT SEPARATORcVERTICAL TABULATIONaSYMMETRY
aSYNaSYNAGOGUEaSYNCHRONOUS IDLEaSYRIAC ABBREVIATION MARKbBARREKHbCOLON SKEWED LEFTdRIGHTbCONTRACTION
bDOTTED ZLAMA ANGULARdHORIZONTALbEND OF PARAGRAPHbESASA ABOVEcBELOWbFEMININE DOTbHARKLEAN ASTERISCUS
cMETOBELUScOBELUSbHBASA ABOVEcBELOWbHBASA-ESASA DOTTEDbHORIZONTAL COLONbLETTER ALAPHcBETHcDALATH
cDOTLESS DALATH RISHcEcFINAL SEMKATHcGAMALcGAMAL GARSHUNIcHEcHETHcKAPHcLAMADHcMALAYALAM BHAdJAdLLA
dLLLAdNGAdNNAdNNNAdNYAdRAdSSAdTTAcMIMcNUNcPEcPERSIAN BHETHdDHALATHdGHAMALcQAPHcREVERSED PEcRISH
cSADHEcSEMKATHcSHINcSOGDIAN FEdKHAPHdZHAINcSUPERSCRIPT ALAPHcTAWcTETHcTETH GARSHUNIcWAWcYUDHcYUDH HE
cZAINbMUSICbOBLIQUE LINE ABOVEdBELOWbPTHAHA ABOVEcBELOWcDOTTEDbQUSHSHAYAbRBASA ABOVEcBELOWbRUKKAKHA
bRWAHAbSUBLINEAR COLONcCOLON SKEWED LEFTeRIGHTcFULL STOPbSUPRALINEAR COLONcCOLON SKEWED LEFT
cFULL STOPbTHREE DOTS ABOVEdBELOWbTWO VERTICAL DOTS ABOVEeBELOWbZQAPHA ABOVEcBELOWcDOTTEDaSYRINGE
"

end LeastPrivilege.Text
