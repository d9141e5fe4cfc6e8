/-!
Names of characters that begin with one of the letters `L` to `M`.
-/

namespace LeastPrivilege.Text

/-- The names of characters that begin with one of the letters `L` to `M`, in the short form. -/
def namesLToM : String := "
aL B BAR SYMBOLaLAB COATaLABELaLACROSSE STICK AND BALLaLADDERaLADY BEETLEaLANGUAGE TAG
aLAO CANCELLATION MARKbDIGIT EIGHTcFIVEcFOURcNINEcONEcSEVENcSIXcTHREEcTWOcZERObELLIPSISbHO MOcNO
bKO LAbLETTER BOcCOcDOcFO FAYdFONdSUNGdTAMcHO SUNGdTAMcKHMU GOdNYOcKHO SUNGdTAMcKOcLOcLO LINGdLOOT
cMOcNGOcNOcNYOcOcPALI BHAdCHAdDDAdDDHAdDHAdGHAdJHAdLLAdNNAdNYAdTTAdTTHAcPHO SUNGdTAMcPOcRO
cSANSKRIT SHAdSSAcSO SUNGdTAMcTHO SUNGdTAMcTOcWOcYObNIGGAHITAbSEMIVOWEL SIGN LOdNYObSIGN PALI VIRAMA
bTONE MAI CATAWAdEKdTHOdTIbVOWEL SIGN AdAAdAIdAMdAYdEdEIdIdIIdMAI KANeKONdOdUdUUdYdYY
aLARGE BLUE CIRCLEcDIAMONDcSQUAREbBROWN CIRCLEcSQUAREbCIRCLEbDOWN TACKbGREEN CIRCLEcSQUARE
bLEFT TRIANGLE OPERATORbONE DOT OVER TWO DOTS PUNCTUATIONcRING OVER TWO RINGS PUNCTUATION
bORANGE CIRCLEcDIAMONDcSQUAREbPURPLE CIRCLEcSQUAREbRED CIRCLEcSQUAREbTRIPLE VERTICAL BAR OPERATOR
bTWO DOTS OVER ONE DOT PUNCTUATIONcRINGS OVER ONE RING PUNCTUATIONbUP TACKbYELLOW CIRCLEcSQUARE
aLARGER THANbTHAN OR EQUAL TOaLARI SIGNaLAST QUARTER MOONcMOON SYMBOLdWITH FACE
aLATIN CAPITAL LETTER AdA WITH ACUTEfBREVEfBREVE AND ACUTEhDOT BELOWhGRAVEhHOOK ABOVEhTILDEfCARON
fCIRCUMFLEXfCIRCUMFLEX AND ACUTEhDOT BELOWhGRAVEhHOOK ABOVEhTILDEfDIAERESISfDIAERESIS AND MACRON
fDOT ABOVEgABOVE AND MACRONgBELOWfDOUBLE GRAVEfGRAVEfHOOK ABOVEfINVERTED BREVEfMACRONfOGONEK
fRING ABOVEgABOVE AND ACUTEgBELOWfSTROKEfTILDEdAAdAEdAE WITH ACUTEfMACRONdAFRICAN DdALPHA
dANGLICANA WdAOdAUdAVdAV WITH HORIZONTAL BARdAYdBdB WITH DOT ABOVEgBELOWfFLOURISHfHOOKfLINE BELOW
fSTROKEfTOPBARdBETAdBROKEN LdCdC WITH ACUTEfBARfCARONfCEDILLAfCEDILLA AND ACUTEfCIRCUMFLEXfDOT ABOVE
fHOOKfPALATAL HOOKfSTROKEdCHIdCLOSED INSULAR GdCONdCUATRILLOdCUATRILLO WITH COMMAdDdD WITH CARON
fCEDILLAfCIRCUMFLEX BELOWfDOT ABOVEgBELOWfHOOKfLINE BELOWfSHORT STROKE OVERLAYfSMALL LETTER Z
hZ WITH CARONfSTROKEfTOPBARdDZdDZ WITH CARONdEdE WITH ACUTEfBREVEfCARONfCEDILLAfCEDILLA AND BREVE
fCIRCUMFLEXfCIRCUMFLEX AND ACUTEhDOT BELOWhGRAVEhHOOK ABOVEhTILDEgBELOWfDIAERESISfDOT ABOVEgBELOW
fDOUBLE GRAVEfGRAVEfHOOK ABOVEfINVERTED BREVEfMACRONfMACRON AND ACUTEhGRAVEfOGONEKfSTROKEfTILDE
fTILDE BELOWdEGYPTOLOGICAL AINeALEFdENGdESHdETdETHdEZHdEZH REVERSEDeWITH CARONdFdF WITH DOT ABOVE
fHOOKfSTROKEdGdG WITH ACUTEfBREVEfCARONfCEDILLAfCIRCUMFLEXfDOT ABOVEfHOOKfMACRONfOBLIQUE STROKE
fSTROKEdGAMMAdGHAdGLOTTAL AeIeSTOPeUdHdH WITH BREVE BELOWfCARONfCEDILLAfCIRCUMFLEXfDESCENDER
fDIAERESISfDOT ABOVEgBELOWfHOOKfSTROKEdHALF HdHENGdHWAIRdIdI WITH ACUTEfBREVEfCARONfCIRCUMFLEX
fDIAERESISfDIAERESIS AND ACUTEfDOT ABOVEgBELOWfDOUBLE GRAVEfGRAVEfHOOK ABOVEfINVERTED BREVEfMACRON
fOGONEKfSTROKEfTILDEfTILDE BELOWdINSULAR DeFeGeReSeTdIOTAdISdJdJ WITH CIRCUMFLEXfCROSSED-TAILfSTROKE
dKdK WITH ACUTEfCARONfCEDILLAfDESCENDERfDIAGONAL STROKEfDOT BELOWfHOOKfLINE BELOWfOBLIQUE STROKE
fSTROKEfSTROKE AND DIAGONAL STROKEdLdL WITH ACUTEfBARfBELTfCARONfCEDILLAfCIRCUMFLEX BELOWfDOT BELOW
gBELOW AND MACRONfDOUBLE BARfHIGH STROKEfLINE BELOWfMIDDLE DOTgTILDEfSMALL LETTER JfSTROKEdLJdM
dM WITH ACUTEfDOT ABOVEgBELOWfHOOKdMIDDLE SCOTS SdMIDDLE-WELSH LLfVdNdN WITH ACUTEfCARONfCEDILLA
fCIRCUMFLEX BELOWfDESCENDERfDOT ABOVEgBELOWfGRAVEfLEFT HOOKfLINE BELOWfLONG RIGHT LEGfOBLIQUE STROKE
fSMALL LETTER JfTILDEdNJdOdO WITH ACUTEfBREVEfCARONfCIRCUMFLEXfCIRCUMFLEX AND ACUTEhDOT BELOWhGRAVE
hHOOK ABOVEhTILDEfDIAERESISfDIAERESIS AND MACRONfDOT ABOVEgABOVE AND MACRONgBELOWfDOUBLE ACUTEgGRAVE
fGRAVEfHOOK ABOVEfHORNfHORN AND ACUTEhDOT BELOWhGRAVEhHOOK ABOVEhTILDEfINVERTED BREVE
fLONG STROKE OVERLAYfLOOPfMACRONfMACRON AND ACUTEhGRAVEfMIDDLE TILDEfOGONEKfOGONEK AND MACRONfSTROKE
fSTROKE AND ACUTEfTILDEfTILDE AND ACUTEhDIAERESIShMACRONdOIdOLD POLISH OdOMEGAdOOdOPEN EeOdOUdP
dP WITH ACUTEfDOT ABOVEfFLOURISHfHOOKfSQUIRREL TAILfSTROKEfSTROKE THROUGH DESCENDERdQ
dQ WITH DIAGONAL STROKEfSTROKE THROUGH DESCENDERdRdR ROTUNDAeWITH ACUTEfCARONfCEDILLAfDOT ABOVE
gBELOWgBELOW AND MACRONfDOUBLE GRAVEfINVERTED BREVEfLINE BELOWfOBLIQUE STROKEfSTROKEfTAIL
dREVERSED C WITH DOTeEeHALF HeOPEN EdRUM ROTUNDAdSdS WITH ACUTEfACUTE AND DOT ABOVEfCARON
fCARON AND DOT ABOVEfCEDILLAfCIRCUMFLEXfCOMMA BELOWfDOT ABOVEgBELOWgBELOW AND DOT ABOVEfHOOK
fOBLIQUE STROKEfSHORT STROKE OVERLAYfSWASH TAILdSALTILLOdSCHWAdSCRIPT GdSHARP SdSIGMOID S
dSMALL CAPITAL IeQ WITH HOOK TAILdTdT WITH CARONfCEDILLAfCIRCUMFLEX BELOWfCOMMA BELOW
fDIAGONAL STROKEfDOT ABOVEgBELOWfHOOKfLINE BELOWfRETROFLEX HOOKfSTROKEdTHORNdTHORN WITH STROKE
fSTROKE THROUGH DESCENDERdTONE FIVEeSIXeTWOdTRESILLOdTURNED AeALPHAeHeINSULAR GeKeLeMeTeVdTZdUdU BAR
eWITH ACUTEfBREVEfCARONfCIRCUMFLEXfCIRCUMFLEX BELOWfDIAERESISfDIAERESIS AND ACUTEhCARONhGRAVEhMACRON
gBELOWfDOT BELOWfDOUBLE ACUTEgGRAVEfGRAVEfHOOK ABOVEfHORNfHORN AND ACUTEhDOT BELOWhGRAVEhHOOK ABOVE
hTILDEfINVERTED BREVEfMACRONfMACRON AND DIAERESISfOGONEKfRING ABOVEfSTROKEfTILDEfTILDE AND ACUTE
gBELOWdUPSILONdVdV WITH DIAGONAL STROKEfDOT BELOWfHOOKfTILDEdVENDdVISIGOTHIC ZdVOLAPUK AEeOEeUEdVYdW
dW WITH ACUTEfCIRCUMFLEXfDIAERESISfDOT ABOVEgBELOWfGRAVEfHOOKdWYNNdXdX WITH DIAERESISfDOT ABOVEdY
dY WITH ACUTEfCIRCUMFLEXfDIAERESISfDOT ABOVEgBELOWfGRAVEfHOOKfHOOK ABOVEfLOOPfMACRONfSTROKEfTILDE
dYOGHdZdZ WITH ACUTEfCARONfCIRCUMFLEXfDESCENDERfDOT ABOVEgBELOWfHOOKfLINE BELOWfPALATAL HOOKfSTROKE
fSWASH TAILcLIGATURE IJdOEbCROSSbEPIGRAPHIC LETTER ARCHAIC MdI LONGAdINVERTED MdREVERSED FeP
dSIDEWAYS IbLETTER AINcALVEOLAR CLICKcBIDENTAL PERCUSSIVEcBILABIAL CLICKdPERCUSSIVEcDENTAL CLICK
cGLOTTAL STOPdSTOP WITH STROKEcINVERTED GLOTTAL STOPeSTOP WITH CURLgSTROKEcLATERAL CLICK
cPHARYNGEAL VOICED FRICATIVEcRETROFLEX CLICKdCLICK WITH RETROFLEX HOOKcREVERSED ESH LOOP
dGLOTTAL STOP WITH STROKEcSINOLOGICAL DOTcSMALL CAPITAL AeAEeBeBARRED BeCeDeEeETHeEZHeFeG
eG WITH HOOKeHeIeINVERTED ReJeKeLeL WITH BELTgSTROKEeMeNeOeOEeOPEN OeOUePeQeReR WITH RIGHT LEG
eREVERSED NfReRUMeSeTeTURNED EfGfKfMfReUeVeWeYeZcSTRETCHED CdC WITH CURLcTWO WITH STROKE
cVOICED LARYNGEAL SPIRANTcWYNNcYRbSMALL CAPITAL LETTER I WITH STROKEeU WITH STROKEcLETTER A
dA REVERSED-SCHWAeWITH ACUTEfBREVEfBREVE AND ACUTEhDOT BELOWhGRAVEhHOOK ABOVEhTILDEfCARONfCIRCUMFLEX
fCIRCUMFLEX AND ACUTEhDOT BELOWhGRAVEhHOOK ABOVEhTILDEfDIAERESISfDIAERESIS AND MACRONfDOT ABOVE
gABOVE AND MACRONgBELOWfDOUBLE GRAVEfGRAVEfHOOK ABOVEfINVERTED BREVEfMACRONfOGONEKfRETROFLEX HOOK
fRIGHT HALF RINGfRING ABOVEgABOVE AND ACUTEgBELOWfSTROKEfTILDEdAAdAEdAE WITH ACUTEfMACRONdALPHA
dALPHA WITH RETROFLEX HOOKdANGLICANA WdAOdAUdAVdAV WITH HORIZONTAL BARdAYdBdB WITH DOT ABOVEgBELOW
fFLOURISHfHOOKfLINE BELOWfMIDDLE TILDEfPALATAL HOOKfSTROKEfTOPBARdBARRED ALPHAeEeOdBASELINE ESHdBETA
dBLACKLETTER EeOeO WITH STROKEdBOTTOM HALF OdBROKEN LdCdC WITH ACUTEfBARfCARONfCEDILLA
fCEDILLA AND ACUTEfCIRCUMFLEXfCURLfDOT ABOVEfHOOKfPALATAL HOOKfRETROFLEX HOOKfSTROKEdCHI
dCHI WITH LOW LEFT SERIFgRIGHT RINGdCLOSED INSULAR GeOMEGAeOPEN EeREVERSED OPEN EdCONdCUATRILLO
dCUATRILLO WITH COMMAdDdD WITH CARONfCEDILLAfCIRCUMFLEX BELOWfCURLfDOT ABOVEgBELOWfHOOK
fHOOK AND TAILfLINE BELOWfMIDDLE TILDEfPALATAL HOOKfSHORT STROKE OVERLAYfSTROKEfTAILfTOPBAR
dDB DIGRAPHdDELTAdDEZH DIGRAPHeDIGRAPH WITH PALATAL HOOKgRETROFLEX HOOKdDOTLESS IeJeJ WITH STROKE
gSTROKE AND HOOKdDOUBLE ReR WITH CROSSED-TAILeTHORNeWYNNdDUMdDZdDZ DIGRAPHeDIGRAPH WITH CURL
gRETROFLEX HOOKeWITH CARONdEdE WITH ACUTEfBREVEfCARONfCEDILLAfCEDILLA AND BREVEfCIRCUMFLEX
fCIRCUMFLEX AND ACUTEhDOT BELOWhGRAVEhHOOK ABOVEhTILDEgBELOWfDIAERESISfDOT ABOVEgBELOWfDOUBLE GRAVE
fFLOURISHfGRAVEfHOOK ABOVEfINVERTED BREVEfMACRONfMACRON AND ACUTEhGRAVEfNOTCHfOGONEKfRETROFLEX HOOK
fSTROKEfTILDEfTILDE BELOWdEGYPTOLOGICAL AINeALEFdENGdENG WITH CROSSED-TAILfPALATAL HOOKdESH
dESH WITH CURLfDOUBLE BARgBAR AND CURLfPALATAL HOOKfRETROFLEX HOOKdETdETHdEZHdEZH REVERSED
eWITH CARONfCURLfPALATAL HOOKfRETROFLEX HOOKfTAILdFdF WITH DOT ABOVEfHOOKfMIDDLE TILDEfPALATAL HOOK
fSTROKEdFENG DIGRAPHeDIGRAPH WITH TRILLdGdG WITH ACUTEfBREVEfCARONfCEDILLAfCIRCUMFLEXfDOT ABOVEfHOOK
fMACRONfOBLIQUE STROKEfPALATAL HOOKfSTROKEdGAMMAdGHAdGLOTTAL AeIeSTOPeUdHdH WITH BREVE BELOWfCARON
fCEDILLAfCIRCUMFLEXfDESCENDERfDIAERESISfDOT ABOVEgBELOWfHOOKfLINE BELOWfPALATAL HOOKfSTROKEdHALF H
dHENGdHENG WITH HOOKdHVdIdI WITH ACUTEfBREVEfCARONfCIRCUMFLEXfDIAERESISfDIAERESIS AND ACUTE
fDOT BELOWfDOUBLE GRAVEfGRAVEfHOOK ABOVEfINVERTED BREVEfMACRONfOGONEKfRETROFLEX HOOKfSTROKE
fSTROKE AND RETROFLEX HOOKfTILDEfTILDE BELOWdINSULAR DeFeGeReSeTdINVERTED ALPHAeOEdIOTA
dIOTA WITH STROKEdIOTIFIED EdISdJdJ WITH CARONfCIRCUMFLEXfCROSSED-TAILfSTROKEdKdK WITH ACUTEfCARON
fCEDILLAfDESCENDERfDIAGONAL STROKEfDOT BELOWfHOOKfLINE BELOWfOBLIQUE STROKEfPALATAL HOOKfSTROKE
fSTROKE AND DIAGONAL STROKEdKRAdLdL WITH ACUTEfBARfBELTfBELT AND PALATAL HOOKfCARONfCEDILLA
fCIRCUMFLEX BELOWfCURLfDOT BELOWgBELOW AND MACRONfDOUBLE BARgMIDDLE TILDEfFISHHOOKfHIGH STROKE
fINVERTED LAZY SfLINE BELOWfMIDDLE DOTgRINGgTILDEfPALATAL HOOKfRETROFLEX HOOKgHOOK AND BELTfSTROKE
dLAMBDA WITH STROKEdLENIS FdLEZHdLEZH WITH RETROFLEX HOOKdLJdLONG SeS WITH DIAGONAL STROKEgDOT ABOVE
gHIGH STROKEdLS DIGRAPHdLUMdLZ DIGRAPHdMdM WITH ACUTEfCROSSED-TAILfDOT ABOVEgBELOWfHOOKfMIDDLE TILDE
fPALATAL HOOKdMIDDLE SCOTS SdMIDDLE-WELSH LLfVdMUMdNdN PRECEDED BY APOSTROPHEeWITH ACUTEfCARON
fCEDILLAfCIRCUMFLEX BELOWfCROSSED-TAILfCURLfDESCENDERfDOT ABOVEgBELOWfGRAVEfLEFT HOOKfLINE BELOW
fLONG RIGHT LEGfMIDDLE TILDEfOBLIQUE STROKEfPALATAL HOOKfRETROFLEX HOOKfTILDEdNJdNUMdOdO WITH ACUTE
fBREVEfCARONfCIRCUMFLEXfCIRCUMFLEX AND ACUTEhDOT BELOWhGRAVEhHOOK ABOVEhTILDEfDIAERESIS
fDIAERESIS AND MACRONfDOT ABOVEgABOVE AND MACRONgBELOWfDOUBLE ACUTEgGRAVEfGRAVEfHOOK ABOVEfHORN
fHORN AND ACUTEhDOT BELOWhGRAVEhHOOK ABOVEhTILDEfINVERTED BREVEfLONG STROKE OVERLAYfLOOP
fLOW RING INSIDEfMACRONfMACRON AND ACUTEhGRAVEfOGONEKfOGONEK AND MACRONfRETROFLEX HOOKfSTROKE
fSTROKE AND ACUTEfTILDEfTILDE AND ACUTEhDIAERESIShMACRONdOIdOLD POLISH OdOMEGAdOOdOPEN E
eE WITH RETROFLEX HOOKeOeO WITH RETROFLEX HOOKgSTROKEeOEdOUdPdP WITH ACUTEfDOT ABOVEfFLOURISHfHOOK
fMIDDLE TILDEfPALATAL HOOKfSQUIRREL TAILfSTROKEfSTROKE THROUGH DESCENDERdPHIdQ
dQ WITH DIAGONAL STROKEfHOOKfHOOK TAILfSTROKE THROUGH DESCENDERdQP DIGRAPHdRdR ROTUNDAeWITH ACUTE
fCARONfCEDILLAfCROSSED-TAILfDOT ABOVEgBELOWgBELOW AND MACRONfDOUBLE GRAVEfFISHHOOK
fFISHHOOK AND MIDDLE TILDEhPALATAL HOOKfINVERTED BREVEfLINE BELOWfLONG LEGfMIDDLE TILDE
fOBLIQUE STROKEfPALATAL HOOKfSTROKEfTAILeWITHOUT HANDLEdRAMS HORNdREVERSED CeC WITH DOTeEeENGeHALF H
eKeOPEN EfE WITH HOOKhRETROFLEX HOOKeR WITH FISHHOOKeSCRIPT GdRUMdRUM ROTUNDAdSdS WITH ACUTE
fACUTE AND DOT ABOVEfCARONfCARON AND DOT ABOVEfCEDILLAfCIRCUMFLEXfCOMMA BELOWfCURLfDOT ABOVEgBELOW
gBELOW AND DOT ABOVEfHOOKfMIDDLE TILDEfOBLIQUE STROKEfPALATAL HOOKfSHORT STROKE OVERLAYfSWASH TAIL
dSAKHA YATdSALTILLOdSCHWAdSCHWA WITH HOOKfRETROFLEX HOOKdSCRIPT GeG WITH CROSSED-TAILeReR WITH RING
dSHARP SdSIDEWAYS DIAERESIZED UeOeO WITH STROKEeOPEN OeTURNED MeUdSIGMOID SdSQUAT REVERSED ESH
dSTIRRUP RdTdT WITH CARONfCEDILLAfCIRCUMFLEX BELOWfCOMMA BELOWfCURLfDIAERESISfDIAGONAL STROKE
fDOT ABOVEgBELOWfHOOKfHOOK AND RETROFLEX HOOKfLINE BELOWfMIDDLE TILDEfPALATAL HOOKfRETROFLEX HOOK
fSTROKEdTAILLESS PHIdTC DIGRAPH WITH CURLdTESH DIGRAPHeDIGRAPH WITH PALATAL HOOKgRETROFLEX HOOK
dTH WITH STRIKETHROUGHdTHORNdTHORN WITH STROKEfSTROKE THROUGH DESCENDERdTONE FIVEeSIXeTWOdTOP HALF O
dTRESILLOdTS DIGRAPHeDIGRAPH WITH RETROFLEX HOOKdTUMdTURNED AeAEeALPHAeDELTAeEeGeHeH WITH FISHHOOK
gFISHHOOK AND TAILeIeINSULAR GeKeLeMeM WITH LONG LEGeO OPEN-OgO WITH STROKEeOE
eOE WITH HORIZONTAL STROKEgSTROKEeOPEN EeReR WITH HOOKgLONG LEGhLEG AND RETROFLEX HOOKgMIDDLE TILDE
gPALATAL HOOKgTAILeTeT WITH CURLeUIeVeWeYeY WITH BELTdTZdUdU BAReBAR WITH SHORT RIGHT LEGeWITH ACUTE
fBREVEfCARONfCIRCUMFLEXfCIRCUMFLEX BELOWfDIAERESISfDIAERESIS AND ACUTEhCARONhGRAVEhMACRONgBELOW
fDOT BELOWfDOUBLE ACUTEgGRAVEfGRAVEfHOOK ABOVEfHORNfHORN AND ACUTEhDOT BELOWhGRAVEhHOOK ABOVEhTILDE
fINVERTED BREVEfLEFT HOOKfMACRONfMACRON AND DIAERESISfOGONEKfRETROFLEX HOOKfRING ABOVE
fSHORT RIGHT LEGfSTROKEfTILDEfTILDE AND ACUTEgBELOWdUEdUIdUMdUOdUPSILONdUPSILON WITH STROKEdV
dV WITH CURLfDIAGONAL STROKEfDOT BELOWfHOOKfPALATAL HOOKfRIGHT HOOKfTILDEdVENDdVISIGOTHIC Z
dVOLAPUK AEeOEeUEdVYdWdW WITH ACUTEfCIRCUMFLEXfDIAERESISfDOT ABOVEgBELOWfGRAVEfHOOKfRING ABOVEdX
dX WITH DIAERESISfDOT ABOVEfLONG LEFT LEGhLEG AND LOW RIGHT RINGiWITH SERIFfLOW RIGHT RING
fPALATAL HOOKdYdY WITH ACUTEfCIRCUMFLEXfDIAERESISfDOT ABOVEgBELOWfGRAVEfHOOKfHOOK ABOVEfLOOPfMACRON
fRING ABOVEfSHORT RIGHT LEGfSTROKEfTILDEdYOGHdZdZ WITH ACUTEfCARONfCIRCUMFLEXfCURLfDESCENDER
fDOT ABOVEgBELOWfHOOKfLINE BELOWfMIDDLE TILDEfPALATAL HOOKfRETROFLEX HOOKfSTROKEfSWASH TAIL
cLIGATURE FFdFFIdFFLdFIdFLdIJdLONG S TdOEdSTbSUBSCRIPT SMALL LETTER AeEeHeIeJeKeLeMeNeOePeReSeSCHWA
eTeUeVeXaLEAF FLUTTERING IN WINDaLEAFY GREENaLEDGER
aLEFT AND LOWER AND RIGHT TRIANGULAR THREE QUARTERS BLOCKdONE EIGHTH BLOCKcRIGHT DOUBLE TURNSTILE
dTACKdTRIANGULAR HALF BLOCKcUPPER AND RIGHT TRIANGULAR THREE QUARTERS BLOCKdONE EIGHTH BLOCK
bANGER BUBBLEbANGLE BRACKETcBRACKET WITH DOTbARC LESS-THAN BRACKETbARROW WITH CIRCLED PLUS
dSMALL CIRCLEbBARB DOWN RIGHT BARB DOWN HARPOONfUP HARPOONcUP RIGHT BARB DOWN HARPOONfUP HARPOON
bBLACK LENTICULAR BRACKETcTORTOISE SHELL BRACKETbCEILINGbCLOSED ENTRYbCORNER BRACKETbCURLY BRACKET
cBRACKET LOWER HOOKdMIDDLE PIECEdUPPER HOOKbDOTTED SUBSTITUTION BRACKETbDOUBLE ANGLE BRACKET
cPARENTHESIScQUOTATION MARKcWIGGLY FENCEbFISH TAILbFIVE EIGHTHS BLOCKbFLOORbHALF BLACK CIRCLEdSTAR
cBLOCKcCIRCLEcCIRCLE WITH DOTeFOUR DOTSeTHREE DOTSeTWO DOTScFOLDER
cINVERSE MEDIUM SHADE AND RIGHT HALF BLOCKcMEDIUM SHADEcRUNNING MANbHAND TELEPHONE RECEIVER
bLOW PARAPHRASE BRACKETbLUGGAGEbMULTIMAPbNORMAL FACTOR SEMIDIRECT PRODUCTbONE EIGHTH BLOCK
cQUARTER BLOCKbOUTER JOINbPARENTHESISbPARENTHESIS EXTENSIONcLOWER HOOKcUPPER HOOK
bRAISED OMISSION BRACKETbRIGHT ARROWcARROW THROUGH SMALL CIRCLEdWITH DOUBLE VERTICAL STROKEeSTROKE
eVERTICAL STROKEcBLACK ARROWcDOUBLE ARROWdARROW WITH STROKEfVERTICAL STROKEcOPEN-HEADED ARROW
cSANS-SERIF ARROWcTRIANGLE-HEADED ARROWcWAVE ARROWcWHITE ARROWbS-SHAPED BAG DELIMITER
bSEMIDIRECT PRODUCTbSEVEN EIGHTHS BLOCKbSIDEWAYS U BRACKETbSINGLE QUOTATION MARKbSPEECH BUBBLE
bSQUARE BRACKETcBRACKET EXTENSIONdLOWER CORNERdUPPER CORNERdWITH DOUBLE STROKEeQUILLeSTROKE
eTICK IN BOTTOM CORNERgTOP CORNEReUNDERBARbSUBSTITUTION BRACKETbTACK
bTHIRD WHITE RIGHT POINTING INDEXbTHOUGHT BUBBLEbTHREE EIGHTHS BLOCKcQUARTERS BLOCK
bTORTOISE SHELL BRACKETbTRANSPOSITION BRACKETbTRIANGLE BESIDE VERTICAL BAR
bTRIANGULAR ONE QUARTER BLOCKbVERTICAL BAR WITH QUILLcBOX LINEbWHITE CORNER BRACKETcCURLY BRACKET
cLENTICULAR BRACKETcPARENTHESIScSQUARE BRACKETcTORTOISE SHELL BRACKETbWIGGLY FENCEbWRITING HAND
aLEFT-FACING ARMENIAN ETERNITY SIGNcFISTcSVASTI SIGNdSIGN WITH DOTSbHANDED INTERLACED PENTAGRAM
bPOINTING ANGLE BRACKETcCURVED ANGLE BRACKETcDOUBLE ANGLE QUOTATION MARKcMAGNIFYING GLASS
bSHADED WHITE RIGHTWARDS ARROWbSIDE ARC ANTICLOCKWISE ARROWbTO-RIGHT EMBEDDINGdISOLATEdMARKdOVERRIDE
aLEFTWARDS ARROWbARROW ABOVE ALMOST EQUAL TOdREVERSE ALMOST EQUAL TOeTILDE OPERATOR
dSHORT RIGHTWARDS ARROWdTILDE OPERATORcAND UPPER AND LOWER ONE EIGHTH BLOCKcFROM BAR
dBAR TO BLACK DIAMONDcOVER RIGHTWARDS ARROWcTHROUGH LESS-THANdSUBSETdXcTO BAR
dBAR OVER RIGHTWARDS ARROW TO BARdBLACK DIAMONDcWITH DOTTED STEMdDOUBLE VERTICAL STROKE
dEQUILATERAL ARROWHEADdHOOKdLARGE TRIANGLE ARROWHEADdLOOPdMEDIUM TRIANGLE ARROWHEADdNOTCHED TAIL
dPLUS BELOWdSMALL EQUILATERAL ARROWHEADeTRIANGLE ARROWHEADdSTROKEdTAIL
dTAIL WITH DOUBLE VERTICAL STROKEfVERTICAL STROKEdTIP DOWNWARDSeUPWARDSdVERTICAL STROKEbARROW-TAIL
bBACK-TILTED SHADOWED WHITE ARROWbBLACK ARROWcCIRCLED WHITE ARROWbBOTTOM-SHADED WHITE ARROW
bCOMPRESSED ARROWbDASHED ARROWbDOUBLE ARROWcARROW FROM BARdWITH STROKEeVERTICAL STROKEcARROW-TAIL
cDASH ARROWbFINGER-POST ARROWbFRONT-TILTED SHADOWED WHITE ARROWbHANDbHARPOON OVER RIGHTWARDS HARPOON
cWITH BARB DOWN ABOVE RIGHTWARDS HARPOON WITH BARB DOWNfBELOW LONG DASHfFROM BARfTO BAReDOWNWARDS
eUP ABOVE LEFTWARDS HARPOON WITH BARB DOWNgLONG DASHgRIGHTWARDS HARPOON WITH BARB UPfFROM BARfTO BAR
eUPWARDSbHEAVY ARROWcCOMPRESSED ARROWbLEFT-SHADED WHITE ARROWbOPEN-HEADED ARROWbPAIRED ARROWS
bQUADRUPLE ARROWbRIGHT-SHADED WHITE ARROWbROCKETbSANS-SERIF ARROWbSQUARED ARROWbSQUIGGLE ARROW
bTOP SHADED WHITE ARROWbTRIANGLE ARROWHEADbTRIANGLE-HEADED ARROW
dARROW OVER RIGHTWARDS TRIANGLE-HEADED ARROWeTO BAReWITH BOLD SHAFTfDOUBLE HORIZONTAL STROKE
gVERTICAL STROKEfHEAVY SHAFTfLONG TIP DOWNWARDShUPWARDSfMEDIUM SHAFTfNARROW SHAFTfVERY HEAVY SHAFT
dDASHED ARROWdPAIRED ARROWSbTRIPLE ARROWcDASH ARROWbTWO HEADED ARROWbTWO-HEADED ARROW FROM BAR
eWITH DOUBLE VERTICAL STROKEfTAILfTAIL WITH DOUBLE VERTICAL STROKEhVERTICAL STROKE
fTRIANGLE ARROWHEADSfVERTICAL STROKEdTRIPLE DASH ARROWbWAVE ARROWbWHITE ARROW
cARROW WITHIN TRIANGLE ARROWHEADaLEGaLEMONaLEOaLEOPARDaLEPCHA CONSONANT SIGN KdKANGdLdMdNdNYIN-DOdP
dRdTbDIGIT EIGHTcFIVEcFOURcNINEcONEcSEVENcSIXcTHREEcTWOcZERObLETTER AcBAcBLAcCAcCHAcDAcDDAcDZAcFA
cFLAcGAcGLAcHAcHLAcJAcKAcKHAcKLAcLAcMAcMLAcNAcNGAcNYAcPAcPHAcPLAcRAcSAcSHAcTAcTHAcTSAcTSHAcTTAcTTHA
cVAcWAcYAbPUNCTUATION CER-WAcNYET THYOOM TA-ROLcTA-ROLcTSHOOKcTSHOOK CER-WAbSIGN NUKTAcRAN
bSUBJOINED LETTER RAdYAbVOWEL SIGN AAdEdIdOdOOdUdUU
aLESS-THAN ABOVE DOUBLE-LINE EQUAL ABOVE GREATER-THANdGREATER-THAN ABOVE DOUBLE-LINE EQUAL
dLEFTWARDS ARROWdSIMILAR ABOVE GREATER-THANeOR EQUAL
dSLANTED EQUAL ABOVE GREATER-THAN ABOVE SLANTED EQUALcAND NOT APPROXIMATEdSINGLE-LINE NOT EQUAL TO
cBUT NOT EQUAL TOeEQUIVALENT TOcCLOSED BY CURVEeCURVE ABOVE SLANTED EQUALcEQUAL TO OR GREATER-THAN
cOR APPROXIMATEdEQUAL TOdEQUIVALENT TOdGREATER-THANdSLANTED EQUAL TOfTO WITH DOT ABOVEiABOVE RIGHT
iINSIDEcOVER EQUAL TOcSIGNcWITH CIRCLE INSIDEdDOTdQUESTION MARK ABOVEaLEVEL SLIDERaLFaLIBRA
aLIGATURE OPEN ET ORNAMENTaLIGHT CHECK MARKbEIGHT SPOKED ASTERISKbFIVE POINTED BLACK STAR
cSPOKED ASTERISKbFOUR POINTED BLACK CUSPeSTARbGREEK CROSSbLEFT TORTOISE SHELL BRACKET ORNAMENTbRAIL
bRIGHT TORTOISE SHELL BRACKET ORNAMENTbSALTIREbSHADEbSIX SPOKED ASTERISKbTHREE POINTED BLACK STAR
bTWELVE POINTED BLACK STARbVERTICAL BARbWHITE SQUAREaLIGHTNINGaLIGHTNING MOODbMOOD BUBBLE
aLIMBU DIGIT EIGHTcFIVEcFOURcNINEcONEcSEVENcSIXcTHREEcTWOcZERObEXCLAMATION MARKbLETTER BAcBHAcCAcCHA
cDAcDHAcGAcGHAcGYANcHAcJAcJHAcKAcKHAcLAcMAcNAcNGAcPAcPHAcRAcSAcSHAcSSAcTAcTHAcTRAcWAcYAcYAN
bQUESTION MARKbSIGN KEMPHRENGcLOOcMUKPHRENGcSA-IbSMALL LETTER ANUSVARAdKAdLAdMAdNAdNGAdPAdRAdTA
bSUBJOINED LETTER RAdWAdYAbVOWEL SIGN AdAIdAUdEdEEdIdOdOOdUbVOWEL-CARRIER LETTER
aLIMITED LIABILITY SIGNaLINE FEEDbINTEGRATION NOT INCLUDING THE POLE
cWITH RECTANGULAR PATH AROUND POLEdSEMICIRCULAR PATH AROUND POLEbSEPARATORbTABULATIONbTABULATION SET
aLINEAR A SIGN A028BdA100-102dA120BdA131CdA301dA302dA303dA304dA305dA306dA307dA308dA309AdA309BdA309C
dA310dA311dA312dA313AdA313BdA313CdA314dA315dA316dA317dA318dA319dA320dA321dA322dA323dA324dA325dA326
dA327dA328dA329dA330dA331dA332dA333dA334dA335dA336dA337dA338dA339dA340dA341dA342dA343dA344dA345dA346
dA347dA348dA349dA350dA351dA352dA353dA354dA355dA356dA357dA358dA359dA360dA361dA362dA363dA364dA365dA366
dA367dA368dA369dA370dA371dA400-VASdA401-VASdA402-VASdA403-VASdA404-VASdA405-VASdA406-VASdA407-VAS
dA408-VASdA409-VASdA410-VASdA411-VASdA412-VASdA413-VASdA414-VASdA415-VASdA416-VASdA417-VASdA418-VAS
dA501dA502dA503dA504dA505dA506dA508dA509dA510dA511dA512dA513dA515dA516dA520dA521dA523dA524dA525dA526
dA527dA528dA529dA530dA531dA532dA534dA535dA536dA537dA538dA539dA540dA541dA542dA545dA547dA548dA549dA550
dA551dA552dA553dA554dA555dA556dA557dA559dA563dA564dA565dA566dA568dA569dA570dA571dA572dA573dA574dA575
dA576dA577dA578dA579dA580dA581dA582dA583dA584dA585dA586dA587dA588dA589dA591dA592dA594dA595dA596dA598
dA600dA601dA602dA603dA604dA606dA608dA609dA610dA611dA612dA613dA614dA615dA616dA617dA618dA619dA620dA621
dA622dA623dA624dA626dA627dA628dA629dA634dA637dA638dA640dA642dA643dA644dA645dA646dA648dA649dA651dA652
dA653dA654dA655dA656dA657dA658dA659dA660dA661dA662dA663dA664dA701 AdA702 BdA703 DdA704 EdA705 F
dA706 HdA707 JdA708 KdA709 LdA709-2 L2e3 L3e4 L4e6 L6dA710 WdA711 XdA712 YdA713 OMEGAdA714 ABB
dA715 BBdA717 DDdA726 EYYYdA732 JEdA800dA801dA802dA803dA804dA805dA806dA807dAB001dAB002dAB003dAB004
dAB005dAB006dAB007dAB008dAB009dAB010dAB011dAB013dAB016dAB017dAB020dAB021dAB021FdAB021MdAB022dAB022F
dAB022MdAB023dAB023MdAB024dAB026dAB027dAB028dAB029dAB030dAB031dAB034dAB037dAB038dAB039dAB040dAB041
dAB044dAB045dAB046dAB047dAB048dAB049dAB050dAB051dAB053dAB054dAB055dAB056dAB057dAB058dAB059dAB060
dAB061dAB065dAB066dAB067dAB069dAB070dAB073dAB074dAB076dAB077dAB078dAB079dAB080dAB081dAB082dAB085
dAB086dAB087dAB118dAB120dAB122dAB123dAB131AdAB131BdAB164dAB171dAB180dAB188dAB191bB IDEOGRAM B100 MAN
dB102 WOMANdB104 DEERdB105 EQUIDdB105F MAREdB105M STALLIONdB106F EWEdB106M RAMdB107F SHE-GOAT
dB107M HE-GOATdB108F SOWdB108M BOARdB109F COWdB109M BULLdB120 WHEATdB121 BARLEYdB122 OLIVE
dB123 SPICEdB125 CYPERUSdB130 OILdB131 WINEdB132dB140 BRONZEdB141 GOLDdB142dB145 WOOLdB146dB150
dB151 HORNdB152dB153dB154dB157dB158dB159 CLOTHdB160dB161dB162 GARMENTdB163 ARMOURdB164dB165dB166
dB167dB168dB169dB170dB171dB172dB173 MONTHdB174dB176 TREEdB177dB178dB179dB180dB181dB182dB183dB184
dB185dB189dB190dB191 HELMETdB220 FOOTSTOOLdB225 BATHTUBdB230 SPEARdB231 ARROWdB232dB233 SWORDdB234
dB236dB240 WHEELED CHARIOTdB241 CHARIOTdB242 CHARIOT FRAMEdB243 WHEELdB245dB246dB248dB249dB251dB252
dB253dB254 DARTdB255dB256dB257dB258dB259dVESSEL B155eB200eB201eB202eB203eB204eB205eB206eB207eB208
eB209eB210eB211eB212eB213eB214eB215eB216eB217eB218eB219eB221eB222eB226eB227eB228eB229eB250eB305
cMONOGRAM B127 KAPOdB128 KANAKOdB133 AREPAdB135 MERIdB156 TURO2dB247 DIPTEcSYLLABLE B001 DAdB002 RO
dB003 PAdB004 TEdB005 TOdB006 NAdB007 DIdB008 AdB009 SEdB010 UdB011 POdB012 SOdB013 MEdB014 DO
dB015 MOdB016 QAdB017 ZAdB020 ZOdB021 QIdB023 MUdB024 NEdB025 A2dB026 RUdB027 REdB028 IdB029 PU2
dB030 NIdB031 SAdB032 QOdB033 RA3dB036 JOdB037 TIdB038 EdB039 PIdB040 WIdB041 SIdB042 WOdB043 A3
dB044 KEdB045 DEdB046 JEdB048 NWAdB050 PUdB051 DUdB052 NOdB053 RIdB054 WAdB055 NUdB057 JAdB058 SU
dB059 TAdB060 RAdB061 OdB062 PTEdB065 JUdB066 TA2dB067 KIdB068 RO2dB069 TUdB070 KOdB071 DWEdB072 PE
dB073 MIdB074 ZEdB075 WEdB076 RA2dB077 KAdB078 QEdB080 MAdB081 KUdB085 AUdB087 TWEdB090 DWOdB091 TWO
cSYMBOL B018dB019dB022dB034dB047dB049dB056dB063dB064dB079dB082dB083dB086dB089aLINK SYMBOL
aLINKED PAPERCLIPSaLION FACEaLIPSaLIPSTICKaLIRA SIGNaLISU LETTER AcAEcBAcCAcCHAcDAcDZAcEcEUcFAcGA
cGHAcHAcHHAcIcJAcKAcKHAcLAcMAcNAcNGAcOcOEcPAcPHAcSAcSHAcTAcTHAcTONE MYA BOeCYAeJEUeNAeTIdNA POcTSA
cTSHAcUcUEcUHcWAcXAcYAcYHAcZAcZHAbPUNCTUATION COMMAcFULL STOPaLIVRE TOURNOIS SIGNaLIZARDaLLAMA
aLOBSTERaLOCKaLOCK WITH INK PENaLOCKING-SHIFT ONEcZEROaLOGICAL ANDbAND WITH DOT ABOVEdDOUBLE OVERBAR
eUNDERBARdHORIZONTAL DASHdMIDDLE STEMdUNDERBARbORbOR OVERLAPPING LOGICAL ANDcWITH DOT ABOVE
dDOUBLE OVERBAReUNDERBARdHORIZONTAL DASHdMIDDLE STEMaLOLLIPOP
aLONG DASH FROM LEFT MEMBER OF DOUBLE VERTICALbDIVISIONbDRUMbLEFT RIGHT ARROWdDOUBLE ARROWcTACK
bLEFTWARDS ARROWcARROW FROM BARcDOUBLE ARROWdARROW FROM BARcSQUIGGLE ARROWbRIGHT TACK
bRIGHTWARDS ARROWcARROW FROM BARcDOUBLE ARROWdARROW FROM BARcSQUIGGLE ARROWaLOTION BOTTLEaLOTUS
aLOUDLY CRYING FACEaLOVE HOTELbLETTERaLOW ASTERISKbBATTERYbBRIGHTNESS SYMBOL
bDOUBLE PRIME QUOTATION MARKbKAVYKAbKAVYKA WITH DOTbLINEaLOWER BLADE SCISSORSbFIVE EIGHTHS BLOCK
bHALF BLOCKcCIRCLEcINVERSE WHITE CIRCLEcMEDIUM SHADEbLEFT BALLPOINT PEN
cBLOCK DIAGONAL LOWER MIDDLE LEFT TO LOWER CENTREjRIGHTeUPPER CENTRE TO LOWER MIDDLE RIGHTiRIGHT
hUPPER MIDDLE RIGHTfLEFT TO LOWER CENTREiMIDDLE RIGHThUPPER MIDDLE RIGHTfMIDDLE LEFT TO LOWER CENTRE
jMIDDLE RIGHTjRIGHTcCRAYONcFOUNTAIN PENcPAINTBRUSHcPENCILcQUADRANT CIRCULAR ARC
cSEMICIRCULAR ANTICLOCKWISE ARROWcTRIANGLEcTRIANGULAR MEDIUM SHADEbONE EIGHTH BLOCKcQUARTER BLOCK
bRIGHT BLOCK DIAGONAL LOWER CENTRE TO LOWER MIDDLE RIGHThUPPER MIDDLE RIGHTiRIGHT
fLEFT TO LOWER MIDDLE RIGHThUPPER CENTREiMIDDLE RIGHTfMIDDLE LEFT TO UPPER CENTREjMIDDLE RIGHTjRIGHT
eUPPER MIDDLE LEFT TO UPPER CENTREjRIGHTcCORNER WITH DOTcDROP-SHADOWED WHITE SQUAREcPENCIL
cQUADRANT CIRCULAR ARCcSEMICIRCULAR CLOCKWISE ARROWcSHADOWED WHITE CIRCLEeSQUAREcTRIANGLE
cTRIANGULAR MEDIUM SHADEbSEVEN EIGHTHS BLOCKbTHREE EIGHTHS BLOCKcQUARTERS BLOCK
bTRIANGULAR ONE QUARTER BLOCKaLOZENGEaLOZENGE DIVIDED BY HORIZONTAL RULEaLREaLRIaLRMaLROaLUGGAGE
aLUNGSaLYCIAN LETTER AcANcBcBHcDcEcENcGcHcIcJcKcKKcLcMcMMcNcNNcPcQcRcScTcTHcTTcUcWcXcZ
aLYDIAN LETTER AcANcBcCcDcEcENcFcGcIcKcLcLYcMcNcNNcOcQcRcScSScTcTTcUcVcYbTRIANGULAR MARKaLYING FACE
aMACRONaMAGEaMAGIC WANDaMAGNETaMAHAJANI ABBREVIATION SIGNbLETTER AcBAcBHAcCAcCHAcDAcDDAcDDHAcDHAcE
cGAcGHAcHAcIcJAcJHAcKAcKHAcLAcMAcNAcNNAcNYAcOcPAcPHAcRAcRRAcSAcTAcTHAcTTAcTTHAcUcVAbLIGATURE SHRI
bSECTION MARKbSIGN NUKTAaMAHJONG TILE AUTUMNcBACKcBAMBOOcCHRYSANTHEMUMcEAST WINDcEIGHT OF BAMBOOS
eCHARACTERSeCIRCLEScFIVE OF BAMBOOSeCHARACTERSeCIRCLEScFOUR OF BAMBOOSeCHARACTERSeCIRCLES
cGREEN DRAGONcJOKERcNINE OF BAMBOOSeCHARACTERSeCIRCLEScNORTH WINDcONE OF BAMBOOSeCHARACTERSeCIRCLES
cORCHIDcPLUMcRED DRAGONcSEVEN OF BAMBOOSeCHARACTERSeCIRCLEScSIX OF BAMBOOSeCHARACTERSeCIRCLES
cSOUTH WINDcSPRINGcSUMMERcTHREE OF BAMBOOSeCHARACTERSeCIRCLEScTWO OF BAMBOOSeCHARACTERSeCIRCLES
cWEST WINDcWHITE DRAGONcWINTERaMAKASAR ANGKAbEND OF SECTIONbLETTER AcBAcCAcDAcGAcJAcKAcLAcMAcNAcNGA
cNYAcPAcRAcSAcTAcVAcYAbPASSIMBANGbVOWEL SIGN EdIdOdUaMALAYALAM AU LENGTH MARKbDATE MARKbDIGIT EIGHT
cFIVEcFOURcNINEcONEcSEVENcSIXcTHREEcTWOcZERObFRACTION ONE EIGHTHdFIFTHdFORTIETHdHALF
dONE-HUNDRED-AND-SIXTIETHdQUARTERdSIXTEENTHdTENTHdTWENTIETHcTHREE EIGHTIETHSdQUARTERSdSIXTEENTHS
dTWENTIETHSbLETTER AcAAcAIcARCHAIC IIcAUcBAcBHAcCAcCHAcCHILLU KdLdLLdLLLdMdNdNNdRRdYcDAcDDAcDDHAcDHA
cDOT REPHcEcEEcGAcGHAcHAcIcIIcJAcJHAcKAcKHAcLAcLLAcLLLAcMAcNAcNGAcNNAcNNNAcNYAcOcOOcPAcPHAcRAcRRAcSA
cSHAcSSAcTAcTHAcTTAcTTHAcTTTAcUcUUcVAcVEDIC ANUSVARAcVOCALIC LdLLdRdRRcYAbNUMBER ONE HUNDRED
dTHOUSANDcTENbSIGN ANUSVARAcAVAGRAHAcCANDRABINDUcCIRCULAR VIRAMAcCOMBINING ANUSVARA ABOVEcPARA
cVERTICAL BAR VIRAMAcVIRAMAcVISARGAbVOWEL SIGN AAdAIdAUdEdEEdIdIIdOdOOdUdUUdVOCALIC LeLLeReRR
aMALE AND FEMALE SIGNbSIGNbWITH STROKE AND MALE AND FEMALE SIGNdSIGNaMALTESE CROSSaMAMMOTHaMAN
aMAN AND WOMAN HOLDING HANDSbDANCINGbIN BUSINESS SUIT LEVITATINGcTUXEDObWITH GUA PI MAOcTURBAN
aMANAT SIGNaMANDAIC AFFRICATION MARKbGEMINATION MARKbLETTER ABcADcAGcAHcAINcAKcAKSAcALcAMcANcAPcAQ
cARcAScASHcASZcATcATTcAZcDUSHENNAcHALQAcINcITcKADcUSHENNAbPUNCTUATIONbVOCALIZATION MARKaMANGO
aMANICHAEAN ABBREVIATION MARK ABOVEdBELOWbLETTER AAYINcALEPHcAYINcBETHcBHETHcDALETHcDHAMEDHcFE
cGHIMELcGIMELcHEcHETHcJAYINcJHAYINcKAPHcKHAPHcLAMEDHcMEMcNUNcPEcQHOPHcQOPHcRESHcSADHEcSAMEKHcSHIN
cSSHINcTAWcTETHcTHAMEDHcWAWcXAPHcXOPHcYODHcZAYINcZHAYINbNUMBER FIVEcONEcONE HUNDREDcTENcTWENTY
bPUNCTUATION DOTcDOT WITHIN DOTcDOUBLE DOT WITHIN DOTcFLEURONcLINE FILLERcSTARcTWO DOTSbSIGN UD
aMANS SHOEaMANTELPIECE CLOCKaMANUAL WHEELCHAIRaMAP SYMBOL FOR LIGHTHOUSEaMAPLE LEAF
aMARCHEN HEAD MARKbLETTER -AcAcBAcCAcCHAcDAcDZAcGAcHAcJAcKAcKHAcLAcMAcNAcNGAcNYAcPAcPHAcRAcSAcSHAcTA
cTHAcTSAcTSHAcWAcYAcZAcZHAbMARK SHADbSIGN ANUSVARAcCANDRABINDUbSUBJOINED LETTER AdBAdCAdCHAdDAdDZA
dGAdHAdJAdKAdKHAdLAdMAdNAdNGAdNYAdPAdPHAdRAdSAdSHAdTAdTHAdTSAdTSHAdWAdYAdZAdZHAbVOWEL SIGN AAdEdIdO
dUaMARRIAGE SYMBOLaMARTIAL ARTS UNIFORMaMASARAM GONDI DIGIT EIGHTdFIVEdFOURdNINEdONEdSEVENdSIXdTHREE
dTWOdZEROcLETTER AdAAdAIdAUdBAdBHAdCAdCHAdDAdDDAdDDHAdDHAdEdGAdGHAdHAdIdIIdJAdJHAdJNYAdKAdKHAdKSSA
dLAdLLAdMAdNAdNGAdNNAdNYAdOdPAdPHAdRAdSAdSHAdSSAdTAdTHAdTRAdTTAdTTHAdUdUUdVAdYAcRA-KARAcREPHA
cSIGN ANUSVARAdCANDRAdHALANTAdNUKTAdVISARGAcVIRAMAcVOWEL SIGN AAeAIeAUeEeIeIIeOeUeUUeVOCALIC R
aMASCULINE ORDINAL INDICATORaMASK WORK SYMBOLaMASU MARKaMATE DRINKaMATHEMATICAL BOLD CAPITAL AdALPHA
dBdBETAdCdCHIdDdDELTAdDIGAMMAdEdEPSILONdETAdFdGdGAMMAdHdIdIOTAdJdKdKAPPAdLdLAMDAdMdMUdNdNUdOdOMEGA
dOMICRONdPdPHIdPIdPSIdQdRdRHOdSdSIGMAdTdTAUdTHETAdTHETA SYMBOLdUdUPSILONdVdWdXdXIdYdZdZETA
cDIGIT EIGHTdFIVEdFOURdNINEdONEdSEVENdSIXdTHREEdTWOdZEROcEPSILON SYMBOLcFRAKTUR CAPITAL AeBeCeDeEeF
eGeHeIeJeKeLeMeNeOePeQeReSeTeUeVeWeXeYeZdSMALL AeBeCeDeEeFeGeHeIeJeKeLeMeNeOePeQeReSeTeUeVeWeXeYeZ
cITALIC CAPITAL AeALPHAeBeBETAeCeCHIeDeDELTAeEeEPSILONeETAeFeGeGAMMAeHeIeIOTAeJeKeKAPPAeLeLAMDAeMeMU
eNeNUeOeOMEGAeOMICRONePePHIePIePSIeQeReRHOeSeSIGMAeTeTAUeTHETAeTHETA SYMBOLeUeUPSILONeVeWeXeXIeYeZ
eZETAdEPSILON SYMBOLdKAPPA SYMBOLdNABLAdPARTIAL DIFFERENTIALdPHI SYMBOLdPI SYMBOLdRHO SYMBOLdSMALL A
eALPHAeBeBETAeCeCHIeDeDELTAeEeEPSILONeETAeFeFINAL SIGMAeGeGAMMAeHeIeIOTAeJeKeKAPPAeLeLAMDAeMeMUeNeNU
eOeOMEGAeOMICRONePePHIePIePSIeQeReRHOeSeSIGMAeTeTAUeTHETAeUeUPSILONeVeWeXeXIeYeZeZETAdTHETA SYMBOL
cKAPPA SYMBOLcNABLAcPARTIAL DIFFERENTIALcPHI SYMBOLcPI SYMBOLcRHO SYMBOLcSCRIPT CAPITAL AeBeCeDeEeF
eGeHeIeJeKeLeMeNeOePeQeReSeTeUeVeWeXeYeZdSMALL AeBeCeDeEeFeGeHeIeJeKeLeMeNeOePeQeReSeTeUeVeWeXeYeZ
cSMALL AdALPHAdBdBETAdCdCHIdDdDELTAdDIGAMMAdEdEPSILONdETAdFdFINAL SIGMAdGdGAMMAdHdIdIOTAdJdKdKAPPAdL
dLAMDAdMdMUdNdNUdOdOMEGAdOMICRONdPdPHIdPIdPSIdQdRdRHOdSdSIGMAdTdTAUdTHETAdUdUPSILONdVdWdXdXIdYdZ
dZETAcTHETA SYMBOLbDOUBLE-STRUCK CAPITAL AeBeDeEeFeGeIeJeKeLeMeOeSeTeUeVeWeXeYdDIGIT EIGHTeFIVEeFOUR
eNINEeONEeSEVENeSIXeTHREEeTWOeZEROdSMALL AeBeCeDeEeFeGeHeIeJeKeLeMeNeOePeQeReSeTeUeVeWeXeYeZ
bFALLING DIAGONALbFRAKTUR CAPITAL AdBdDdEdFdGdJdKdLdMdNdOdPdQdSdTdUdVdWdXdYcSMALL AdBdCdDdEdFdGdHdI
dJdKdLdMdNdOdPdQdRdSdTdUdVdWdXdYdZbITALIC CAPITAL AdALPHAdBdBETAdCdCHIdDdDELTAdEdEPSILONdETAdFdG
dGAMMAdHdIdIOTAdJdKdKAPPAdLdLAMDAdMdMUdNdNUdOdOMEGAdOMICRONdPdPHIdPIdPSIdQdRdRHOdSdSIGMAdTdTAUdTHETA
dTHETA SYMBOLdUdUPSILONdVdWdXdXIdYdZdZETAcEPSILON SYMBOLcKAPPA SYMBOLcNABLAcPARTIAL DIFFERENTIAL
cPHI SYMBOLcPI SYMBOLcRHO SYMBOLcSMALL AdALPHAdBdBETAdCdCHIdDdDELTAdDOTLESS IeJdEdEPSILONdETAdF
dFINAL SIGMAdGdGAMMAdIdIOTAdJdKdKAPPAdLdLAMDAdMdMUdNdNUdOdOMEGAdOMICRONdPdPHIdPIdPSIdQdRdRHOdSdSIGMA
dTdTAUdTHETAdUdUPSILONdVdWdXdXIdYdZdZETAcTHETA SYMBOLbLEFT ANGLE BRACKETcDOUBLE ANGLE BRACKET
cFLATTENED PARENTHESIScWHITE SQUARE BRACKETdTORTOISE SHELL BRACKETbMONOSPACE CAPITAL AdBdCdDdEdFdGdH
dIdJdKdLdMdNdOdPdQdRdSdTdUdVdWdXdYdZcDIGIT EIGHTdFIVEdFOURdNINEdONEdSEVENdSIXdTHREEdTWOdZEROcSMALL A
dBdCdDdEdFdGdHdIdJdKdLdMdNdOdPdQdRdSdTdUdVdWdXdYdZbRIGHT ANGLE BRACKETcDOUBLE ANGLE BRACKET
cFLATTENED PARENTHESIScWHITE SQUARE BRACKETdTORTOISE SHELL BRACKETbRISING DIAGONAL
bSANS-SERIF BOLD CAPITAL AfALPHAfBfBETAfCfCHIfDfDELTAfEfEPSILONfETAfFfGfGAMMAfHfIfIOTAfJfKfKAPPAfL
fLAMDAfMfMUfNfNUfOfOMEGAfOMICRONfPfPHIfPIfPSIfQfRfRHOfSfSIGMAfTfTAUfTHETAfTHETA SYMBOLfUfUPSILONfVfW
fXfXIfYfZfZETAeDIGIT EIGHTfFIVEfFOURfNINEfONEfSEVENfSIXfTHREEfTWOfZEROeEPSILON SYMBOL
eITALIC CAPITAL AgALPHAgBgBETAgCgCHIgDgDELTAgEgEPSILONgETAgFgGgGAMMAgHgIgIOTAgJgKgKAPPAgLgLAMDAgMgMU
gNgNUgOgOMEGAgOMICRONgPgPHIgPIgPSIgQgRgRHOgSgSIGMAgTgTAUgTHETAgTHETA SYMBOLgUgUPSILONgVgWgXgXIgYgZ
gZETAfEPSILON SYMBOLfKAPPA SYMBOLfNABLAfPARTIAL DIFFERENTIALfPHI SYMBOLfPI SYMBOLfRHO SYMBOLfSMALL A
gALPHAgBgBETAgCgCHIgDgDELTAgEgEPSILONgETAgFgFINAL SIGMAgGgGAMMAgHgIgIOTAgJgKgKAPPAgLgLAMDAgMgMUgNgNU
gOgOMEGAgOMICRONgPgPHIgPIgPSIgQgRgRHOgSgSIGMAgTgTAUgTHETAgUgUPSILONgVgWgXgXIgYgZgZETAfTHETA SYMBOL
eKAPPA SYMBOLeNABLAePARTIAL DIFFERENTIALePHI SYMBOLePI SYMBOLeRHO SYMBOLeSMALL AfALPHAfBfBETAfCfCHI
fDfDELTAfEfEPSILONfETAfFfFINAL SIGMAfGfGAMMAfHfIfIOTAfJfKfKAPPAfLfLAMDAfMfMUfNfNUfOfOMEGAfOMICRONfP
fPHIfPIfPSIfQfRfRHOfSfSIGMAfTfTAUfTHETAfUfUPSILONfVfWfXfXIfYfZfZETAeTHETA SYMBOLdCAPITAL AeBeCeDeEeF
eGeHeIeJeKeLeMeNeOePeQeReSeTeUeVeWeXeYeZdDIGIT EIGHTeFIVEeFOUReNINEeONEeSEVENeSIXeTHREEeTWOeZERO
dITALIC CAPITAL AfBfCfDfEfFfGfHfIfJfKfLfMfNfOfPfQfRfSfTfUfVfWfXfYfZeSMALL AfBfCfDfEfFfGfHfIfJfKfLfM
fNfOfPfQfRfSfTfUfVfWfXfYfZdSMALL AeBeCeDeEeFeGeHeIeJeKeLeMeNeOePeQeReSeTeUeVeWeXeYeZ
bSCRIPT CAPITAL AdCdDdGdJdKdNdOdPdQdSdTdUdVdWdXdYdZcSMALL AdBdCdDdFdHdIdJdKdLdMdNdPdQdRdSdTdUdVdWdX
dYdZaMAXIMIZEaMAYAN NUMERAL EIGHTcEIGHTEENcELEVENcFIFTEENcFIVEcFOURcFOURTEENcNINEcNINETEENcONEcSEVEN
cSEVENTEENcSIXcSIXTEENcTENcTHIRTEENcTHREEcTWELVEcTWOcZEROaMEASURED ANGLEbANGLE OPENING LEFT
cWITH OPEN ARM ENDING IN ARROW POINTING DOWN AND LEFTlRIGHTjLEFT AND DOWNlUPjRIGHT AND DOWNlUP
jUP AND LEFTlRIGHTbBYbRIGHT ANGLE WITH DOTaMEAT ON BONEaMECHANICAL ARMbLEG
aMEDEFAIDRIN CAPITAL LETTER AdAIdATIUdBdCdDdEdFdGdHdHPdIdJdKdKPdLdMdNdNGdNYdOdOEdPdQdRdSdTdUdVdWdXdY
dYUdZbCOMMAbDIGIT EIGHTcFIVEcFOURcNINEcONEcONE ALTERNATE FORMcSEVENcSIXcTHREEcTHREE ALTERNATE FORM
cTWOcTWO ALTERNATE FORMcZERObEXCLAMATION OHbFULL STOPbNUMBER EIGHTEENcELEVENcFIFTEENcFOURTEEN
cNINETEENcSEVENTEENcSIXTEENcTENcTHIRTEENcTWELVEbSMALL LETTER AdAIdATIUdBdCdDdEdFdGdHdHPdIdJdKdKPdLdM
dNdNGdNYdOdOEdPdQdRdSdTdUdVdWdXdYdYUdZbSYMBOL AIVAaMEDIEVAL COMMAbEXCLAMATION MARKbQUESTION MARK
aMEDIUM BLACK CIRCLEbBOLD WHITE CIRCLEbEIGHT POINTED BLACK STARcSPOKED ASTERISKbFIVE SPOKED ASTERISK
bFLATTENED LEFT PARENTHESIS ORNAMENTcRIGHT PARENTHESIS ORNAMENTbFOUR POINTED BLACK STAR
dPINWHEEL STARbGREEK CROSSbLEFT CURLY BRACKET ORNAMENTcPARENTHESIS ORNAMENT
bLEFT-POINTING ANGLE BRACKET ORNAMENTbMATHEMATICAL SPACEbRIGHT CURLY BRACKET ORNAMENT
cPARENTHESIS ORNAMENTbRIGHT-POINTING ANGLE BRACKET ORNAMENTbSALTIREbSHADEbSIX POINTED BLACK STAR
cSPOKED ASTERISKbSMALL WHITE CIRCLEbTHREE POINTED BLACK STARdPINWHEEL STARbVERTICAL BARbWHITE CIRCLE
cSQUAREaMEETEI MAYEK AHANG KHUDAMcANJIcAPUN IYEKcCHEIKHANcCHEIKHEIcDIGIT EIGHTdFIVEdFOURdNINEdONE
dSEVENdSIXdTHREEdTWOdZEROcLETTER ATIYAdBAdBHAMdCHAdCHILdDDAdDDHAdDHOUdDILdEdGHOUdGOKdHUKdIdI LONSUM
dJHAMdJILdKHOUdKOKdKOK LONSUMdLAIdLAI LONSUMdMITdMIT LONSUMdNAdNA LONSUMdNGOUdNGOU LONSUMdNNAdNYAdO
dPAdPA LONSUMdPHAMdRAIdSAMdSHAdSSAdTHOUdTILdTIL LONSUMdTTAdTTHAdUNdWAIdYANGcLUM IYEK
cSYLLABLE REPETITION MARKcVIRAMAcVOWEL SIGN AAIeAAUeANAPeAUeCHEINAPeIIeINAPeNUNGeONAPeSOUNAPeUNAPeUU
eVISARGAeYENAPcWORD REPETITION MARKaMELONaMELTING FACEaMEMO
aMENDE KIKAKUI COMBINING NUMBER HUNDRED THOUSANDSeHUNDREDSeMILLIONSeTEENSeTEN THOUSANDSeTENS
eTHOUSANDScDIGIT EIGHTdFIVEdFOURdNINEdONEdSEVENdSIXdTHREEdTWOcSYLLABLE M001 KIdM002 KAdM003 KU
dM004 WIdM005 WAdM006 WUdM007 MINdM008 MANdM009 MUNdM010 BIdM011 BAdM012 BUdM013 IdM014 AdM015 U
dM016 DIdM017 DAdM018 DUdM019 SIdM020 SAdM021 SUdM022 TIdM023 TAdM024 TUdM025 LIdM026 LAdM027 LU
dM028 JIdM029 JAdM030 JUdM031 YIdM032 YAdM033 YUdM034 FIdM035 FAdM036 FUdM037 NINdM038 NANdM039 NUN
dM040 HEEdM041 HAdM042 HOOdM043 NGGAdM044 KPEEdM045 WOdM046 HUANdM047 MBEEdM048 KOdM049 WVAdM050 PU
dM051 PEdM052 HENdM053 HINdM054 LOOdM055 TEdM056 GBAdM057 NGONdM058 NYANdM059 MENdM060 NYONdM061 WVI
dM062 MBAdM063 JOdM064 NDOdM065 KEEdM066 POdM067 NDOOdM068 PIdM069 TOdM070 GBOdM071 GBOOdM072 MBE
dM073 LEdM074 KPUdM075 FEdM076 KOOdM077 VOdM078 FEEdM079 SOdM080 YEdM081 PEEdM082 NGGUdM083 HEEI
dM084 LEEdM085 VEdM086 LONG NGGEdM087 HUNdM088 FOdM089 DEEdM090 NGGIdM091 TEEdM092 KPAdM093 GBEE
dM094 MONdM095 KEdM096 HEdM097 BEdM098 NYENdM099 PAdM100 EdM101 FANdM102 POOdM103 BOOdM104 TOO
dM105 LONG MBOOdM106 LONG NGGOOdM107 GBEdM108 KPEdM109 YEEdM110 LONG LEdM111 GAdM112 KPOOdM113 JE
dM114 WOOdM115 NGGEEdM116 SEdM117 NENdM118 WEdM119 NDEdM120 NGGOdM121 YOdM122 MBUdM123 NDIdM124 GBI
dM125 NDUdM126 WEEdM127 NGGUAdM128 HOOUdM129 NDAdM130 HANdM131 INdM132 KPIdM133 FOOdM134 NJOO
dM135 INdM136 SOOdM137 EIdM138 BOdM139 WVEdM140 HOdM141 YOOdM142 LONG MBOdM143 WEIdM144 VOOdM145 MBI
dM146 NGGEdM147 OdM148 GBUdM149 NJEEdM150 BEEdM151 VUdM152 NJAdM153 LOdM154 MUANdM155 GIdM156 NGGOO
dM157 JEEdM158 KPOdM159 NGGAAdM160 JOOdM161 LONG MBEdM162 SEEdM163 EEdM164 NYINdM165 OOdM166 GUEI
dM167 GUANdM168 GUdM169 NONdM170 NYUNdM171 RAdM172 MBOOdM173 VEEdM174 MBOdM175 LONG JOdM176 HI
dM177 NGUANdM178 ENdM179 KUAdM180 DOOdM181 DOdM182 VIdM183 LONG NGGOdM184 NGENdM185 VAdM186 HU
dM187 MBUUdM188 MBEEdM189 MUENdM190 GEEdM191 NDEEdM192 NJUdM193 HONdM194 WUIdM195 ANdM196 SIA
dM197 FUAaMENORAH WITH NINE BRANCHESaMENS SYMBOLaMERCURYaMEROITIC CURSIVE FRACTION EIGHT TWELFTHS
dELEVEN TWELFTHSdFIVE TWELFTHSdFOUR TWELFTHSdNINE TWELFTHSdONE HALFeTWELFTHdSEVEN TWELFTHS
dSIX TWELFTHSdTEN TWELFTHSdTHREE TWELFTHSdTWO TWELFTHScLETTER AdARCHAIC SAdBAdDAdEdHHAdIdKAdKHAdLA
dMAdNAdNEdOdPAdQAdRAdSAdSEdTAdTEdTOdWAdYAcLOGOGRAM IMNdRMTcNUMBER EIGHTdEIGHT HUNDRED
eHUNDRED THOUSANDeTHOUSANDdEIGHTY THOUSANDdFIFTYdFIFTY THOUSANDdFIVEdFIVE HUNDREDeHUNDRED THOUSAND
eTHOUSANDdFORTYdFORTY THOUSANDdFOURdFOUR HUNDREDeHUNDRED THOUSANDeTHOUSANDdNINEdNINE HUNDRED
eHUNDRED THOUSANDeTHOUSANDdNINETY THOUSANDdONEdONE HUNDREDeHUNDRED THOUSANDeTHOUSANDdSEVEN
dSEVEN HUNDREDeHUNDRED THOUSANDeTHOUSANDdSEVENTYdSEVENTY THOUSANDdSIXdSIX HUNDREDeHUNDRED THOUSAND
eTHOUSANDdSIXTYdSIXTY THOUSANDdTENdTEN THOUSANDdTHIRTYdTHIRTY THOUSANDdTHREEdTHREE HUNDRED
eHUNDRED THOUSANDeTHOUSANDdTWENTYdTWENTY THOUSANDdTWOdTWO HUNDREDeHUNDRED THOUSANDeTHOUSAND
bHIEROGLYPHIC LETTER AdBAdBA-2dDAdEdHHAdIdKAdKHAdLAdMAdNAdNA-2dNEdNE-2dOdPAdQAdRAdRA-2dSAdSA-2dSEdTA
dTA-2dTEdTE-2dTOdWAdYAcSYMBOL VIDJdVIDJ-2aMERPERSONaMESSAGE WAITINGaMETRICAL BREVEbLONG OVER SHORT
dTWO SHORTSbPENTASEMEbSHORT OVER LONGbTETRASEMEbTRISEMEbTWO SHORTS JOINEDdOVER LONGaMETRO
aMIAO LETTER AHcARCHAIC MAdNAdNGAdZZAcBAcBRIcDAcDDAcDLHAcDLHYAcDZAcDZHAcDZYIcDZZAcFAcGAcGHAcGHHAcHA
cHHAcKAcLAcLHAcLHYAcLYAcMAcMHAcNAcNASALIZATIONcNGAcNGHAcNHAcNNAcNNHAcNYAcNYHAcPAcPLAcQAcQGA
cREFORMED TONE-1e2e4e5e6e8dTSHAcRTEcSAcSHAcSSAcSYIcTAcTEcTLHAcTLHYAcTONE-2d3d4d5d6d7d8cTSAcTSEcTSHA
cTSSAcTTAcVAcVFAcWAcXAcYI DZHAdKAdNNAdPAdTAdTSAdTSHAdTTAcZAcZHAcZSAcZSHAcZZAcZZSAcZZSYAcZZYA
bSIGN ASPIRATIONcCONSONANT MODIFIER BARcREFORMED ASPIRATIONdVOICINGbTONE ABOVEcBELOWcRIGHTcTOP RIGHT
bVOWEL SIGN AdAAdAEdAEEdAHHdAIdANdANGdAUdEdEAdEIdENdENGdERdERRdIdIAdIANdIANGdIEdIGdIIdINGdIOdIONGdIU
dNdNGdOdOERdOEYdOGdOOdOUdROUNDED EReERRdUdUAdUANdUANGdUEIdUIdUNGdUOGdUUdVWdWdWOdYdYIdYUI
aMICR DASH SYMBOLbON US SYMBOLaMICRO SIGNaMICROBEaMICROPHONEaMICROSCOPEaMIDDLE DOT
bTHIRD WHITE RIGHT POINTING INDEXaMIDLINE HORIZONTAL ELLIPSISaMILITARY HELMETbMEDALaMILKY WAY
aMILL SIGNaMINIBUSaMINIDISCaMINIMIZEaMINUS SIGNbSIGN IN TRIANGLEcWITH COMMA ABOVEdDOT BELOW
dFALLING DOTSdRISING DOTSbTILDEaMINUS-OR-PLUS SIGNaMINYaMIRRORaMIRROR BALLaMMSPaMOBILE PHONE
bPHONE OFFcWITH RIGHTWARDS ARROW AT LEFTaMODELSaMODERN PENTATHLONaMODI ABBREVIATION SIGNbDANDA
bDIGIT EIGHTcFIVEcFOURcNINEcONEcSEVENcSIXcTHREEcTWOcZERObDOUBLE DANDAbLETTER AcAAcAIcAUcBAcBHAcCA
cCHAcDAcDDAcDDHAcDHAcEcGAcGHAcHAcIcIIcJAcJHAcKAcKHAcLAcLLAcMAcNAcNGAcNNAcNYAcOcPAcPHAcRAcSAcSHAcSSA
cTAcTHAcTTAcTTHAcUcUUcVAcVOCALIC LdLLdRdRRcYAbSIGN ANUSVARAcARDHACANDRAcHUVAcVIRAMAcVISARGA
bVOWEL SIGN AAdAIdAUdEdIdIIdOdUdUUdVOCALIC LeLLeReRRaMODIFIER BREVE WITH INVERTED BREVE
bLETTER ACUTE ACCENTcALVEOLAR CLICKcAPOSTROPHEcBEGIN HIGH TONEdLOW TONEcBILABIAL CLICKcCAPITAL AdAE
dBdBARRED BdCdDdEdFdGdHdH WITH STROKEdIdJdKdLdMdNdOdOUdPdQdRdREVERSED EeNdTdUdVdW
cCENTRED LEFT HALF RINGdRIGHT HALF RINGcCHINESE TONE YANG PINGfQUfRUfSHANGeYIN PINGfQUfRUfSHANG
cCIRCUMFLEX ACCENTcCOLONcCROSS ACCENTcCYRILLIC ENdHARD SIGNdSOFT SIGNcDENTAL CLICK
cDOT HORIZONTAL BARdSLASHdVERTICAL BARcDOUBLE APOSTROPHEdPRIMEcDOWN ARROWHEADdTACKcEND HIGH TONE
dLOW TONEcEXTRA-HIGH DOTTED LEFT-STEM TONE BARfTONE BAReLEFT-STEM TONE BAReTONE BAR
dLOW DOTTED LEFT-STEM TONE BARfTONE BAReLEFT-STEM TONE BAReTONE BARcGEORGIAN NARcGLOTTAL STOP
dSTOP WITH STROKEcGRAVE ACCENTcHALF TRIANGULAR COLONcHIGH DOTTED LEFT-STEM TONE BAReTONE BAR
dLEFT-STEM TONE BARdTONE BARcLATERAL CLICKcLEFT ARROWHEADdHALF RINGdTACKcLOW ACUTE ACCENT
dCIRCUMFLEX ACCENTdDOTTED LEFT-STEM TONE BAReTONE BARdDOWN ARROWHEADdGRAVE ACCENT
dINVERTED EXCLAMATION MARKdLEFT ARROWeARROWHEADdLEFT-STEM TONE BARdMACRONdRIGHT ARROWHEADdRINGdTILDE
dTONE BARdUP ARROWHEADdVERTICAL LINEcLOWER RIGHT CORNER ANGLEcMACRONcMID DOTTED LEFT-STEM TONE BAR
eTONE BARdLEFT-STEM TONE BARdTONE BARcMIDDLE DOUBLE ACUTE ACCENTeGRAVE ACCENTdGRAVE ACCENT
cMINUS SIGNcOPEN SHELFcPLUS SIGNcPRIMEcRAISED COLONdDOWN ARROWdEXCLAMATION MARK
dINVERTED EXCLAMATION MARKdUP ARROWcRETROFLEX CLICK WITH RETROFLEX HOOKcREVERSED COMMAdGLOTTAL STOP
eSTOP WITH STROKEcRHOTIC HOOKcRIGHT ARROWHEADdHALF RINGdTACKcSHELFcSHORT EQUALS SIGNcSMALL AdAEdAIN
dALPHAdBdB WITH HOOKdBARRED OdBETAdBOTTOM HALF OdCdC WITH CURLdCAPITAL AAeBeGeG WITH HOOKeHeI
eI WITH STROKEeINVERTED ReLeL WITH BELTeNeOEeReUeYdCHIdCLOSED OMEGAeREVERSED OPEN EdDdD WITH HOOK
fHOOK AND TAILfTAILdDELTAdDEZH DIGRAPHdDOTLESS J WITH STROKEgSTROKE AND HOOKdDZ DIGRAPH
eDIGRAPH WITH CURLgRETROFLEX HOOKdEdENGdESHdETHdEZHdFdFENG DIGRAPHdGdG WITH HOOKdGAMMAdGREEK GAMMA
ePHIdHdH WITH HOOKfSTROKEdHENGdHENG WITH HOOKdI WITH STROKEdIOTAdJdJ WITH CROSSED-TAILdKdL
dL WITH BELTfINVERTED LAZY SfMIDDLE TILDEfPALATAL HOOKfRETROFLEX HOOKgHOOK AND BELTdLEZH
dLEZH WITH RETROFLEX HOOKdLIGATURE OEdLS DIGRAPHdLZ DIGRAPHdMdM WITH HOOKdN WITH LEFT HOOK
fRETROFLEX HOOKdOdO WITH STROKEdOPEN EeOdPdPHIdQdRdR WITH FISHHOOKfTAILdRAMS HORNdREVERSED E
eGLOTTAL STOPeOPEN EdSdS WITH CURLfHOOKdSCHWAdSCRIPT GdSIDEWAYS UdTdT WITH PALATAL HOOK
fRETROFLEX HOOKdTC DIGRAPH WITH CURLdTESH DIGRAPHdTHETAdTOP HALF OdTS DIGRAPH
eDIGRAPH WITH RETROFLEX HOOKdTURNED AeAEeALPHAeHeIeMeM WITH LONG LEGeOPEN EeReR WITH HOOKgLONG LEG
hLEG AND RETROFLEX HOOKeVeWeYeY WITH BELTdUdU BAReWITH LEFT HOOKdUPSILONdVdV WITH HOOKfRIGHT HOOKdW
dXdYdZdZ WITH CURLfRETROFLEX HOOKcSTRESS AND HIGH TONEeLOW TONEcSUPERSCRIPT HALF TRIANGULAR COLON
dTRIANGULAR COLONcTRIANGULAR COLONcTURNED COMMAcUNASPIRATEDcUP ARROWHEADdTACKcUScVERTICAL LINE
cVOICINGcYANG DEPARTING TONE MARKcYIN DEPARTING TONE MARKaMODULO TWO SUMaMONEY BAGbWITH WINGS
aMONEY-MOUTH FACEaMONGOLIAN BIRGAbBIRGA WITH DOUBLE ORNAMENTdORNAMENTbCOLONbCOMMAbDIGIT EIGHTcFIVE
cFOURcNINEcONEcSEVENcSIXcTHREEcTWOcZERObDOUBLE BIRGA WITH ORNAMENTbELLIPSISbFOUR DOTS
bFREE VARIATION SELECTOR FOUReONEeTHREEeTWObFULL STOPbINVERTED BIRGAcBIRGA WITH DOUBLE ORNAMENT
bLETTER AcALI GALI AeAHeANUSVARA ONEeBALUDAeCAeDAeDAGALGAeDAMARUeDDAeHALF UfYAeIeINVERTED UBADAMAeKA
eNGAeNNAePAePHAeSSAeTAeTHREE BALUDAeTTAeTTHAeUBADAMAeVISARGA ONEeZAeZHAcANGcBAcCHAcCHA WITH TWO DOTS
cCHIcDAcEcEEcFAcGAcHAAcIcJAcKAcKHAcLAcLHAcMAcMANCHU ALI GALI BHAfCAfCYAfDDHAfDHAfGHAfJHAfLHAfNGAfSSA
fTAfTTAfZAfZHAdFAdIdKAdRAdZHAcNAcOcOEcPAcQAcRAcSAcSHAcSIBE ANGdCHAdDAdEdFAdGAdGAAdHAdHAAdIdIYdJAdKA
dPAdRAAdSHAdTAdTSAdUdUEdZAdZHAcTAcTODO ALI GALI TAfZHAdANGdBAdCHAdDAdDZAdEdGAdGAAdHAAdIdJAdJIAdKA
dLONG VOWEL SIGNdMAdNIAdOdOEdPAdQAdTAdTSAdUdUEdWAdYAcTSAcUcUEcWAcYAcZAcZHIcZRAbMANCHU COMMA
cFULL STOPbNIRUGUbROTATED BIRGAcBIRGA WITH DOUBLE ORNAMENTeORNAMENTbSIBE SYLLABLE BOUNDARY MARKER
bSWIRL BIRGAcBIRGA WITH DOUBLE ORNAMENTeORNAMENTbTODO SOFT HYPHENbTRIPLE BIRGA WITH ORNAMENT
bTURNED SWIRL BIRGA WITH DOUBLE ORNAMENTbVOWEL SEPARATORaMONKEYaMONKEY FACEaMONOGRAM FOR EARTHcYANG
cYINaMONORAILaMONOSTABLE SYMBOLaMOOD BUBBLEaMOON CAKEbVIEWING CEREMONYaMOSQUEaMOSQUITO
aMOTHER CHRISTMASaMOTOR BOATbSCOOTERaMOTORIZED WHEELCHAIRaMOTORWAYaMOUNT FUJIaMOUNTAIN
aMOUNTAIN BICYCLISTbCABLEWAYbRAILWAYaMOUSEaMOUSE FACEbTRAPaMOUTHaMOVIE CAMERAaMOYAIaMRO DANDA
bDIGIT EIGHTcFIVEcFOURcNINEcONEcSEVENcSIXcTHREEcTWOcZERObDOUBLE DANDAbLETTER AcBAcCHUcDAcDAIcEcEA
cHAIcHAOcKEAAEcKHAIcKOcLAcLANcMAEMcMIMcNGIcNINcOcOLcOOcPAcPHIcRIcROcSHIcTAcTEKcTHEAcWAcYO
aMUCH GREATER-THANbLESS-THANaMULTANI LETTER AcBAcBHAcCAcCHAcDAcDDAcDDDAcDDHAcDHAcEcGAcGHAcHAcIcJA
cJJAcKAcKHAcLAcMAcNAcNNAcNYAcPAcPHAcRAcRHAcRRAcSAcTAcTHAcTTAcTTHAcUcVAcYAbSECTION MARKaMULTIMAP
aMULTIPLE MUSICAL NOTESaMULTIPLICATION SIGNbSIGN IN DOUBLE CIRCLEdLEFT HALF CIRCLEdRIGHT HALF CIRCLE
dTRIANGLEcWITH DOT ABOVEdUNDERBARbXaMULTISETaMULTISET MULTIPLICATIONbUNIONaMUSHROOMaMUSIC FLAT SIGN
bNATURAL SIGNbSHARP SIGNaMUSICAL KEYBOARDbKEYBOARD WITH JACKSbNOTEbSCOREbSYMBOL ARPEGGIATO DOWNdUP
cBEGIN BEAMdPHRASEdSLURdTIEcBRACEcBRACKETcBREATH MARKcBREVEcBREVIScBREVIS RESTcC CLEFcCAESURA
cCIRCLE X NOTEHEADcCLIMACUScCLIVIScCLUSTER NOTEHEAD BLACKeWHITEcCODAcCOMBINING ACCENT
dACCENT-STACCATOdAUGMENTATION DOTdBENDdDOITdDOUBLE TONGUEdDOWN BOWdFLAG-1e2e3e4e5dFLIPdHARMONIC
dLOUREdMARCATOdMARCATO-STACCATOdRIPdSMEARdSNAP PIZZICATOdSPRECHGESANG STEMdSTACCATISSIMOdSTACCATO
dSTEMdTENUTOdTREMOLO-1e2e3dTRIPLE TONGUEdUP BOWcCOMMON TIMEcCRESCENDOcCROIXcCUT TIMEcDA CAPO
cDAL SEGNOcDAMPcDAMP ALLcDASHED BARLINEcDECRESCENDOcDEGREE SLASHcDOUBLE BARLINEdFLATdSHARP
cDRUM CLEF-1e2cEIGHTH NOTEdRESTcEND BEAMdOF STIMMEdPHRASEdSLURdTIEcF CLEFdCLEF OTTAVA ALTAfBASSA
cFERMATAcFERMATA BELOWcFINAL BARLINEcFINGERED TREMOLO-1e2e3cFIVE-LINE STAFFcFLAT DOWNdUPcFORTE
cFOUR-LINE STAFFdSTRING FRETBOARDcFUSA BLACKdWHITEcG CLEFdCLEF OTTAVA ALTAfBASSAcGLISSANDO DOWNdUP
cGRACE NOTE NO SLASHeSLASHcGREGORIAN C CLEFdF CLEFcHALF NOTEdPEDAL MARKdRESTcHAUPTSTIMME
cINVERTED TURNcKIEVAN C CLEFdEIGHTH NOTE STEM DOWNgUPdEND OF PIECEdFINAL NOTEdFLAT SIGNdHALF NOTE
dQUARTER NOTE STEM DOWNgUPdRECITATIVE MARKdWHOLE NOTEcKORONcLEFT REPEAT SIGNcLONGA
cLONGA IMPERFECTA RESTdPERFECTA RESTcMAXIMAcMEZZOcMINIMAcMINIMA BLACKdRESTcMOON NOTEHEAD BLACKeWHITE
cMULTI RESTcMULTIPLE MEASURE RESTcNATURAL DOWNdUPcNEBENSTIMMEcNOTEHEAD BLACKcNULL NOTEHEAD
cONE HUNDRED TWENTY-EIGHTH NOTEgRESTcONE-LINE STAFFcORNAMENT STROKE-1e10e11e2e3e4e5e6e7e8e9
cOTTAVA ALTAdBASSAcPARENTHESIS NOTEHEADcPEDAL MARKdUP MARKcPES SUBPUNCTIScPIANOcPLUS NOTEHEAD
cPODATUScPORRECTUScPORRECTUS FLEXUScQUARTER NOTEdRESTdTONE FLATeSHARPcQUINDICESIMA ALTAdBASSA
cREPEAT DOTScREPEATED FIGURE-1e2e3cREVERSE FINAL BARLINEcRIGHT REPEAT SIGNcRINFORZANDOcSCANDICUS
cSCANDICUS FLEXUScSEGNOcSEMIBREVIS BLACKdRESTdWHITEcSEMIMINIMA BLACKdRESTdWHITEcSHARP DOWNdUP
cSHORT BARLINEcSINGLE BARLINEcSIX-LINE STAFFdSTRING FRETBOARDcSIXTEENTH NOTEdRESTcSIXTY-FOURTH NOTE
eRESTcSORIcSQUARE BdNOTEHEAD BLACKeWHITEcSUBITOcTEMPUS IMPERFECTUM CUM PROLATIONE IMPERFECTA
gIMPERFECTA DIMINUTION-1i2i3gPERFECTAdPERFECTUM CUM PROLATIONE IMPERFECTAgPERFECTA
gPERFECTA DIMINUTION-1cTHIRTY-SECOND NOTEeRESTcTHREE-LINE STAFFcTORCULUScTORCULUS RESUPINUScTR
cTRIANGLE NOTEHEAD DOWN BLACKfWHITEeLEFT BLACKfWHITEeRIGHT BLACKfWHITEeUP BLACKfRIGHT BLACKgWHITE
fWHITEcTRIANGLE-ROUND NOTEHEAD DOWN BLACKgWHITEcTURNcTURN SLASHdUPcTWO-LINE STAFFcVIRGA
cVOID NOTEHEADcWHOLE NOTEdRESTcWITH FINGERNAILScX NOTEHEADcZaMVSaMWaMYANMAR CONSONANT SIGN MEDIAL HA
eRAeWAeYAdMON MEDIAL LAfMAfNAdSHAN MEDIAL WAbDIGIT EIGHTcFIVEcFOURcNINEcONEcSEVENcSIXcTHREEcTWOcZERO
bLETTER AcAITON RAcAUcBAcBHAcCAcCHAcDAcDDAcDDHAcDHAcEcEASTERN PWO KAREN GHWAfNNAfYWAcGAcGHAcGREAT SA
cHAcIcIIcJAcJHAcKAcKHAcKHAMTI CAdCHAdDDAdDDHAdDHAdFAdGAdHAdHHAdJAdJHAdLLAdNAdNYAdRAdSAdTTAdTTHAdXA
dZAcLAcLLAcMAcMON BBAdBBEdEdJHAdNGAcNAcNGAcNNAcNNYAcNYAcOcPAcPHAcRAcRUMAI PALAUNG FAcSA
cSGAW KAREN SHAcSHAcSHAN AdBAdBHAdCAdCHAdDAdFAdGAdGHAdHAdJHAdKAdKHAdNAdNNAdNYAdPHAdTHAdZA
cSHWE PALAUNG CHAeSHAcSSAcTAcTAI LAING BAeBHAeDAeDDAeDDHAeDHAeFAeGAeGHAeJAeJHAeLLAeNNAeNYAcTHAcTTA
cTTHAcUcUUcVOCALIC LdLLdRdRRcWAcWESTERN PWO KAREN PWAfTHAcYAbLOGOGRAM KHAMTI HMdOAYdQN
bMODIFIER LETTER KHAMTI REDUPLICATIONdSHAN REDUPLICATIONbSHAN DIGIT EIGHTdFIVEdFOURdNINEdONEdSEVEN
dSIXdTHREEdTWOdZERObSIGN ANUSVARAcASATcDOT BELOWcKHAMTI TONE-1e3cLITTLE SECTIONcPAO KAREN TONE
cRUMAI PALAUNG TONE-5cSECTIONcSHAN COUNCIL EMPHATIC TONEeTONE-2f3dSAWdTONE-2e3e5e6cTAI LAING TONE-2
f5cVIRAMAcVISARGAcWESTERN PWO KAREN TONE-1g2g3g4g5bSYMBOL AFOREMENTIONEDcAITON EXCLAMATIONdONEdTWO
cCOMPLETEDcGENITIVEcLOCATIVEcSHAN EXCLAMATIONdONEbTAI LAING DIGIT EIGHTeFIVEeFOUReNINEeONEeSEVENeSIX
eTHREEeTWOeZERObTONE MARK SGAW KAREN HATHIfKE PHObVOWEL SIGN AAdAIdAITON AeAIdEdE ABOVEdGEBA KAREN I
dIdIIdKAYAH EEeOEeUdMON IIeOdSGAW KAREN EUdSHAN AAeEeE ABOVEeFINAL YdTALL AAdUdUUdVOCALIC LeLLeReRR
dWESTERN PWO KAREN EUgUE
"

end LeastPrivilege.Text
