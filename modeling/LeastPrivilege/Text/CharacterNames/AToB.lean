/-!
Names of characters that begin with one of the letters `A` to `B`.
-/

namespace LeastPrivilege.Text

/-- The names of characters that begin with one of the letters `A` to `B`, in the short form. -/
def namesAToB : String := "
aABACUSaAC CURRENTaACCORDIONaACCOUNT OFaACKaACKNOWLEDGEaACTIVATE ARABIC FORM SHAPING
bSYMMETRIC SWAPPINGaACUTE ACCENTbANGLEaADDRESSED TO THE SUBJECTaADHESIVE BANDAGEaADI SHAKTI
aADLAM ALIF LENGTHENERbCAPITAL LETTER ALIFdBAdBHEdCHIdDAALIdDHAdEdFAdGAdGBEdHAdIdJIIMdKAFdKHAdKPO
dLAAMdMIIMdNHAdNUNdNYAdOdPEdQAAFdRAdSHAdSINNYIIYHEdTUdUdVAdWAWdYAdYHEdZALbCONSONANT MODIFIER
bDIGIT EIGHTcFIVEcFOURcNINEcONEcSEVENcSIXcTHREEcTWOcZERObGEMINATE CONSONANT MODIFIERbGEMINATION MARK
bHAMZAbINITIAL EXCLAMATION MARKcQUESTION MARKbNASALIZATION MARKbNUKTAbSMALL LETTER ALIFdBAdBHEdCHI
dDAALIdDHAdEdFAdGAdGBEdHAdIdJIIMdKAFdKHAdKPOdLAAMdMIIMdNHAdNUNdNYAdOdPEdQAAFdRAdSHAdSINNYIIYHEdTUdU
dVAdWAWdYAdYHEdZALbVOWEL LENGTHENERaADMETOSaADMISSION TICKETSaADULTaAEGEAN CHECK MARK
bDRY MEASURE FIRST SUBUNITbLIQUID MEASURE FIRST SUBUNITbMEASURE SECOND SUBUNITcTHIRD SUBUNIT
bNUMBER EIGHTcEIGHT HUNDREDdTHOUSANDcEIGHTYcEIGHTY THOUSANDcFIFTYcFIFTY THOUSANDcFIVEcFIVE HUNDRED
dTHOUSANDcFORTYcFORTY THOUSANDcFOURcFOUR HUNDREDdTHOUSANDcNINEcNINE HUNDREDdTHOUSANDcNINETY
cNINETY THOUSANDcONEcONE HUNDREDdTHOUSANDcSEVENcSEVEN HUNDREDdTHOUSANDcSEVENTYcSEVENTY THOUSANDcSIX
cSIX HUNDREDdTHOUSANDcSIXTYcSIXTY THOUSANDcTENcTEN THOUSANDcTHIRTYcTHIRTY THOUSANDcTHREE
cTHREE HUNDREDdTHOUSANDcTWENTYcTWENTY THOUSANDcTWOcTWO HUNDREDdTHOUSANDbWEIGHT BASE UNIT
cFIRST SUBUNITcFOURTH SUBUNITcSECOND SUBUNITcTHIRD SUBUNITbWORD SEPARATOR DOTdLINEaAERIAL TRAMWAY
aAFGHANI SIGNaAHOM CONSONANT SIGN MEDIAL LAeLIGATING RAeRAbDIGIT EIGHTcFIVEcFOURcNINEcONEcSEVENcSIX
cTHREEcTWOcZERObLETTER AcALTERNATE BAdGAdTAcBAcBHAcCAcCHAcDAcDDAcDDHAcDHAcGAcGHAcHAcJAcJHAcKAcKHAcLA
cLLAcMAcNAcNGAcNNAcNYAcPAcPHAcRAcSAcTAcTHAcTTAcTTHAbNUMBER TENcTWENTYbSIGN KILLERcRULAIcSECTION
cSMALL SECTIONbSYMBOL VIbVOWEL SIGN AdAAdAIdAMdAWdEdIdIIdOdUdUUaAIRPLANEaAIRPLANE ARRIVINGbDEPARTURE
aAKTIESELSKABaALARM CLOCKaALCHEMICAL SYMBOL FOR AIRdALEMBICdALKALIdALKALI-2dALUMdAMALGAM
dANTIMONY OREdAQUA REGIAeREGIA-2eVITAEeVITAE-2dAQUAFORTISdARSENICdASHESdAURIPIGMENTdBATH OF MARY
fVAPOURSdBISMUTH OREdBLACK SULFURdBORAXdBORAX-2e3dBRICKdCADUCEUSdCALXdCAPUT MORTUUMdCINNABAR
dCOPPER ANTIMONIATEeOREdCROCUS OF COPPERfCOPPER-2fIRONdCRUCIBLEdCRUCIBLE-2e3e4e5dDAY-NIGHTdDISSOLVE
dDISSOLVE-2dDISTILLdEARTHdFIREdGOLDdGUMdHALF DRAMeOUNCEdHORSE DUNGdHOURdIRON OREeORE-2
dIRON-COPPER OREdLEAD OREdLODESTONEdMARCASITEdMERCURY SUBLIMATEeSUBLIMATE-2f3dMONTHdNIGHTdNITREdOIL
dPHILOSOPHERS SULFURdPOT ASHESdPOWDERdPOWDERED BRICKdPRECIPITATEdPURIFYdPUTREFACTIONdQUICK LIME
dQUINTESSENCEdREALGARdREALGAR-2dREGULUSdREGULUS OF ANTIMONYfANTIMONY-2fIRONdREGULUS-2e3e4dRETORT
dROCK SALTeSALT-2dSAL-AMMONIACdSALTdSALT OF ANTIMONYfCOPPER ANTIMONIATEdSCEPTER OF JOVEdSILVERdSOAP
dSPIRITdSTARRED TRIDENTdSTRATUM SUPER STRATUMfSTRATUM-2dSUBLIMATE OF ANTIMONYfCOPPER
fSALT OF ANTIMONYhCOPPERdSUBLIMATIONdSULFURdTARTARdTARTAR-2dTIN OREdTINCTUREdTRIDENTdTUTTYdURINE
dVERDIGRISdVINEGARdVINEGAR OF ANTIMONYdVINEGAR-2e3dVITRIOLdVITRIOL-2dWATERdWAXaALEF SYMBOLaALEMBIC
aALERTaALIEN MONSTERaALL AROUND-PROFILEbEQUAL TOaALMaALMOST EQUAL OR EQUAL TOcTO
cTO WITH CIRCUMFLEX ACCENTaALTERNATE ONE-WAY LEFT WAY TRAFFICaALTERNATIVE KEY SYMBOL
aAMALGAMATION OR COPRODUCTaAMBULANCEaAMERICAN FOOTBALLaAMPERSANDaAMPHORAaANATOLIAN HIEROGLYPH A001
cA002cA003cA004cA005cA006cA007cA008cA009cA010cA010AcA011cA012cA013cA014cA015cA016cA017cA018cA019
cA020cA021cA022cA023cA024cA025cA026cA026AcA027cA028cA029cA030cA031cA032cA033cA034cA035cA036cA037
cA038cA039cA039AcA040cA041cA041AcA042cA043cA044cA045cA045AcA046cA046AcA046BcA047cA048cA049cA050cA051
cA052cA053cA054cA055cA056cA057cA058cA059cA060cA061cA062cA063cA064cA065cA066cA066AcA066BcA066CcA067
cA068cA069cA070cA071cA072cA073cA074cA075cA076cA077cA078cA079cA080cA081cA082cA083cA084cA085cA086cA087
cA088cA089cA090cA091cA092cA093cA094cA095cA096cA097cA097AcA098cA098AcA099cA100cA100AcA101cA101AcA102
cA102AcA103cA104cA104AcA104BcA104CcA105cA105AcA105BcA106cA107cA107AcA107BcA107CcA108cA109cA110cA110A
cA110BcA111cA112cA113cA114cA115cA115AcA116cA117cA118cA119cA120cA121cA122cA123cA124cA125cA125AcA126
cA127cA128cA129cA130cA131cA132cA133cA134cA135cA135AcA136cA137cA138cA139cA140cA141cA142cA143cA144
cA145cA146cA147cA148cA149cA150cA151cA152cA153cA154cA155cA156cA157cA158cA159cA160cA161cA162cA163cA164
cA165cA166cA167cA168cA169cA170cA171cA172cA173cA174cA175cA176cA177cA178cA179cA180cA181cA182cA183cA184
cA185cA186cA187cA188cA189cA190cA191cA192cA193cA194cA195cA196cA197cA198cA199cA200cA201cA202cA202A
cA202BcA203cA204cA205cA206cA207cA207AcA208cA209cA209AcA210cA211cA212cA213cA214cA215cA215AcA216cA216A
cA217cA218cA219cA220cA221cA222cA223cA224cA225cA226cA227cA227AcA228cA229cA230cA231cA232cA233cA234
cA235cA236cA237cA238cA239cA240cA241cA242cA243cA244cA245cA246cA247cA248cA249cA250cA251cA252cA253cA254
cA255cA256cA257cA258cA259cA260cA261cA262cA263cA264cA265cA266cA267cA267AcA268cA269cA270cA271cA272
cA273cA274cA275cA276cA277cA278cA279cA280cA281cA282cA283cA284cA285cA286cA287cA288cA289cA289AcA290
cA291cA292cA293cA294cA294AcA295cA296cA297cA298cA299cA299AcA300cA301cA302cA303cA304cA305cA306cA307
cA308cA309cA309AcA310cA311cA312cA313cA314cA315cA316cA317cA318cA319cA320cA321cA322cA323cA324cA325
cA326cA327cA328cA329cA329AcA330cA331cA332AcA332BcA332CcA333cA334cA335cA336cA336AcA336BcA336CcA337
cA338cA339cA340cA341cA342cA343cA344cA345cA346cA347cA348cA349cA350cA351cA352cA353cA354cA355cA356cA357
cA358cA359cA359AcA360cA361cA362cA363cA364cA364AcA365cA366cA367cA368cA368AcA369cA370cA371cA371AcA372
cA373cA374cA375cA376cA377cA378cA379cA380cA381cA381AcA382cA383 RA OR RIcA383AcA384cA385cA386cA386A
cA387cA388cA389cA390cA391cA392cA393 EIGHTcA394cA395cA396cA397cA398cA399cA400cA401cA402cA403cA404
cA405cA406cA407cA408cA409cA410 BEGIN LOGOGRAM MARKcA410A END LOGOGRAM MARKcA411cA412cA413cA414cA415
cA416cA417cA418cA419cA420cA421cA422cA423cA424cA425cA426cA427cA428cA429cA430cA431cA432cA433cA434cA435
cA436cA437cA438cA439cA440cA441cA442cA443cA444cA445cA446cA447cA448cA449cA450cA450AcA451cA452cA453
cA454cA455cA456cA457cA457AcA458cA459cA460cA461cA462cA463cA464cA465cA466cA467cA468cA469cA470cA471
cA472cA473cA474cA475cA476cA477cA478cA479cA480cA481cA482cA483cA484cA485cA486cA487cA488cA489cA490cA491
cA492cA493cA494cA495cA496cA497cA501cA502cA503cA504cA505cA506cA507cA508cA509cA510cA511cA512cA513cA514
cA515cA516cA517cA518cA519cA520cA521cA522cA523cA524cA525cA526cA527cA528cA529cA530aANATOMICAL HEART
aANCHORaAND WITH DOTaANGER SYMBOLaANGLEaANGLE WITH S INSIDEcUNDERBARaANGRY FACEaANGSTROM SIGN
aANGUISHED FACEaANKHaANTaANTENNA WITH BARSaANTICLOCKWISE CLOSED CIRCLE ARROWbCONTOUR INTEGRAL
bDOWNWARDS AND UPWARDS OPEN CIRCLE ARROWSbGAPPED CIRCLE ARROWbINTEGRATIONbOPEN CIRCLE ARROW
bTOP SEMICIRCLE ARROWbTRIANGLE-HEADED BOTTOM U-SHAPED ARROWdLEFT U-SHAPED ARROWdOPEN CIRCLE ARROW
dRIGHT U-SHAPED ARROWdTOP U-SHAPED ARROWaAPCaAPL FUNCTIONAL SYMBOL ALPHAdALPHA UNDERBAR
dBACKSLASH BARdCIRCLE BACKSLASHeDIAERESISeJOTeSTAReSTILEeUNDERBARdCOMMA BARdDEL DIAERESISeSTILE
eTILDEdDELTA STILEeUNDERBARdDIAMOND UNDERBARdDOWN CARET TILDEeSHOE STILEeTACK JOTfUNDERBAR
dDOWNWARDS VANEdEPSILON UNDERBARdGREATER-THAN DIAERESISdI-BEAMdIOTAdIOTA UNDERBARdJOT DIAERESIS
eUNDERBARdLEFT SHOE STILEdLEFTWARDS VANEdOMEGAdOMEGA UNDERBARdQUADdQUAD BACKSLASHeCIRCLEeCOLONeDEL
eDELTAeDIAMONDeDIVIDEeDOWN CARETeDOWNWARDS ARROWeEQUALeGREATER-THANeJOTeLEFTWARDS ARROWeLESS-THAN
eNOT EQUALeQUESTIONeRIGHTWARDS ARROWeSLASHeUP CARETeUPWARDS ARROWdQUOTE QUADeUNDERBARdRHO
dRIGHTWARDS VANEdSEMICOLON UNDERBARdSLASH BARdSQUISH QUADdSTAR DIAERESISdSTILE TILDEdTILDE DIAERESIS
dUP CARET TILDEeSHOE JOTeTACK DIAERESISfJOTfOVERBARdUPWARDS VANEdZILDEaAPOLLONaAPOSTROPHE
aAPPLICATION PROGRAM COMMANDaAPPROACHES THE LIMITaAPPROXIMATELY BUT NOT ACTUALLY EQUAL TO
bEQUAL OR EQUAL TOcTOcTO OR THE IMAGE OFaAQUARIUSaARABIC BASELINE ROUND DOTbCOMMAbCURLY DAMMA
cDAMMATANcFATHAcFATHATANcKASRAcKASRATANbDAMMAbDAMMA ISOLATED FORMcMEDIAL FORMcWITH DOTbDAMMATAN
bDAMMATAN ISOLATED FORMbDATE SEPARATORbDECIMAL SEPARATORbDISPUTED END OF AYAH
bDOUBLE RIGHT ARROWHEAD ABOVEeABOVE WITH DOTbDOUBLED MADDAbEMPTY CENTRE HIGH STOPdLOW STOP
bEND OF AYAHdTEXT MARKbFATHAbFATHA ISOLATED FORMcMEDIAL FORMcWITH DOT ABOVEdRINGdTWO DOTSbFATHATAN
bFATHATAN ISOLATED FORMbFIVE POINTED STARbFOOTNOTE MARKERbFULL STOPbHALF MADDA OVER MADDA
bHAMZA ABOVEcBELOWbINVERTED DAMMAbKASRAbKASRA ISOLATED FORMcMEDIAL FORMcWITH DOT BELOWbKASRATAN
bKASRATAN ISOLATED FORMbLARGE CIRCLE BELOWcROUND DOT ABOVEeBELOWeINSIDE CIRCLE BELOW
bLEFT ARROWHEAD ABOVEdBELOWbLETTER AEcAFRICAN FEHdNOONdQAFdQAF WITH THREE DOTS ABOVEcAIN
cAIN FINAL FORMdINITIAL FORMdISOLATED FORMdMEDIAL FORMdWITH THREE DOTS ABOVEgBELOW
gPOINTING DOWNWARDS ABOVEeTWO DOTS ABOVEgVERTICALLY ABOVEcALEFcALEF FINAL FORMdISOLATED FORMdMAKSURA
dMAKSURA FINAL FORMeISOLATED FORMdWASLAdWASLA FINAL FORMeISOLATED FORM
dWITH ATTACHED BOTTOM RIGHT KASRAhKASRA AND DOT ABOVEjLEFT RINGfFATHAfKASRAfLEFT HAMZAgROUND DOT
fRIGHT HAMZAgROUND DOTfROUND DOT ABOVEhBELOWfTOP RIGHT FATHAhFATHA AND DOT ABOVEjLEFT RINGeDOT ABOVE
eEXTENDED ARABIC-INDIC DIGIT THREE ABOVEiTWO ABOVEeHAMZA ABOVEfABOVE FINAL FORMgISOLATED FORMfBELOW
fBELOW FINAL FORMgISOLATED FORMeLEFT MIDDLE STROKEeMADDA ABOVEfABOVE FINAL FORMgISOLATED FORM
eRIGHT MIDDLE STROKEgSTROKE AND DOT ABOVEiLEFT RINGeWAVY HAMZA ABOVEgBELOWcBEEHcBEEH FINAL FORM
dINITIAL FORMdISOLATED FORMdMEDIAL FORMcBEHcBEH FINAL FORMdINITIAL FORMdISOLATED FORMdMEDIAL FORM
dWITH DOT BELOW AND THREE DOTS ABOVEeHAMZA ABOVEeINVERTED SMALL V BELOWeSMALL MEEM ABOVEfVfV BELOW
eTHREE DOTS HORIZONTALLY BELOWgPOINTING UPWARDS BELOWiBELOW AND TWO DOTS ABOVE
eTWO DOTS BELOW AND DOT ABOVEcBEHEHcBEHEH FINAL FORMdINITIAL FORMdISOLATED FORMdMEDIAL FORMcDAD
cDAD FINAL FORMdINITIAL FORMdISOLATED FORMdMEDIAL FORMdWITH DOT BELOWcDAHALcDAHAL FINAL FORM
dISOLATED FORMcDALcDAL FINAL FORMdISOLATED FORMdWITH DOT BELOWfBELOW AND SMALL TAHeFOUR DOTS ABOVE
eINVERTED SMALL V BELOWfVeRINGeTHREE DOTS ABOVE DOWNWARDSgBELOW
eTWO DOTS VERTICALLY BELOW AND SMALL TAHcDDAHALcDDAHAL FINAL FORMdISOLATED FORMcDDALcDDAL FINAL FORM
dISOLATED FORMcDOTLESS BEHdFEHdQAFcDULcDUL FINAL FORMdISOLATED FORMcDYEHcDYEH FINAL FORM
dINITIAL FORMdISOLATED FORMdMEDIAL FORMcEcE FINAL FORMdINITIAL FORMdISOLATED FORMdMEDIAL FORM
cFARSI YEHdYEH FINAL FORMeINITIAL FORMeISOLATED FORMeMEDIAL FORM
eWITH EXTENDED ARABIC-INDIC DIGIT FOUR BELOWjTHREE ABOVEjTWO ABOVEfINVERTED VfTHREE DOTS ABOVE
fTWO DOTS ABOVEcFEHcFEH FINAL FORMdINITIAL FORMdISOLATED FORMdMEDIAL FORMdWITH DOT BELOW
fBELOW AND THREE DOTS ABOVEfMOVED BELOWeTHREE DOTS BELOWgPOINTING UPWARDS BELOWeTWO DOTS BELOWcGAF
cGAF FINAL FORMdINITIAL FORMdISOLATED FORMdMEDIAL FORMdWITH INVERTED STROKEeRINGeTHREE DOTS ABOVE
eTWO DOTS BELOWcGHAINcGHAIN FINAL FORMdINITIAL FORMdISOLATED FORMdMEDIAL FORMdWITH DOT BELOW
eTHREE DOTS ABOVEcGRAFcGUEHcGUEH FINAL FORMdINITIAL FORMdISOLATED FORMdMEDIAL FORMcHAH
cHAH FINAL FORMdINITIAL FORMdISOLATED FORMdMEDIAL FORMdWITH EXTENDED ARABIC-INDIC DIGIT FOUR BELOW
eHAMZA ABOVEeINVERTED SMALL V BELOWeSMALL ARABIC LETTER TAH ABOVEiAND TWO DOTSiBELOW
eTHREE DOTS ABOVEgPOINTING UPWARDS BELOWeTWO DOTS ABOVEgVERTICAL ABOVEcHAMZAcHAMZA ISOLATED FORMcHEH
cHEH DOACHASHMEEdDOACHASHMEE FINAL FORMeINITIAL FORMeISOLATED FORMeMEDIAL FORMdFINAL FORMdGOAL
dGOAL FINAL FORMeINITIAL FORMeISOLATED FORMeMEDIAL FORMeWITH HAMZA ABOVEdINITIAL FORMdISOLATED FORM
dMEDIAL FORMdWITH INVERTED VeYEH ABOVEfABOVE FINAL FORMgISOLATED FORMcHIGH HAMZAdHAMZA ALEFeWAWeYEH
cJEEMcJEEM FINAL FORMdINITIAL FORMdISOLATED FORMdMEDIAL FORMdWITH THREE DOTS ABOVEgBELOW
eTWO DOTS ABOVEcJEHcJEH FINAL FORMdISOLATED FORMcKAFcKAF FINAL FORMdINITIAL FORMdISOLATED FORM
dMEDIAL FORMdWITH DOT ABOVEfBELOWeRINGeTHREE DOTS BELOWeTWO DOTS ABOVEcKASHMIRI YEHcKEHEH
cKEHEH FINAL FORMdINITIAL FORMdISOLATED FORMdMEDIAL FORMdWITH DOT ABOVEeSMALL VeTHREE DOTS ABOVE
gBELOWgPOINTING UPWARDS BELOWeTWO DOTS ABOVEgVERTICALLY BELOWcKHAHcKHAH FINAL FORMdINITIAL FORM
dISOLATED FORMdMEDIAL FORMcKIRGHIZ OEdOE FINAL FORMeISOLATED FORMdYUdYU FINAL FORMeISOLATED FORMcLAM
cLAM FINAL FORMdINITIAL FORMdISOLATED FORMdMEDIAL FORMdWITH BAReDOT ABOVEeDOUBLE BAR
eSMALL ARABIC LETTER TAH ABOVEfVeTHREE DOTS ABOVEgBELOWcLOW ALEFcMARKcMEEMcMEEM FINAL FORM
dINITIAL FORMdISOLATED FORMdMEDIAL FORMdWITH DOT ABOVEfBELOWeTHREE DOTS ABOVEcNGcNG FINAL FORM
dINITIAL FORMdISOLATED FORMdMEDIAL FORMcNGOEHcNGOEH FINAL FORMdINITIAL FORMdISOLATED FORM
dMEDIAL FORMcNOONcNOON FINAL FORMdGHUNNAdGHUNNA FINAL FORMeISOLATED FORMdINITIAL FORMdISOLATED FORM
dMEDIAL FORMdWITH DOT BELOWeINVERTED SMALL VeRINGeSMALL TAHfVeTHREE DOTS ABOVEeTWO DOTS BELOWcNYEH
cNYEH FINAL FORMdINITIAL FORMdISOLATED FORMdMEDIAL FORMcOEcOE FINAL FORMdISOLATED FORMcPEH
cPEH FINAL FORMdINITIAL FORMdISOLATED FORMdMEDIAL FORMdWITH SMALL MEEM ABOVEfVcPEHEH
cPEHEH FINAL FORMdINITIAL FORMdISOLATED FORMdMEDIAL FORMcQAFcQAF FINAL FORMdINITIAL FORM
dISOLATED FORMdMEDIAL FORMdWITH DOT ABOVEfBELOWfBELOW AND NO DOTS ABOVEeTHREE DOTS ABOVEcREH
cREH FINAL FORMdISOLATED FORMdWITH DOT BELOWfBELOW AND DOT ABOVEeFOUR DOTS ABOVEeHAMZA ABOVE
eINVERTED VeLOOPeRINGeSMALL ARABIC LETTER TAH AND TWO DOTSfNOON ABOVEfVfV BELOWeSTROKE
eTWO DOTS ABOVEgVERTICALLY ABOVEcRNOONcRNOON FINAL FORMdINITIAL FORMdISOLATED FORMdMEDIAL FORM
cROHINGYA YEHcRREHcRREH FINAL FORMdISOLATED FORMcSADcSAD FINAL FORMdINITIAL FORMdISOLATED FORM
dMEDIAL FORMdWITH THREE DOTS ABOVEgBELOWeTWO DOTS BELOWcSEENcSEEN FINAL FORMdINITIAL FORM
dISOLATED FORMdMEDIAL FORMdWITH DOT BELOW AND DOT ABOVEeEXTENDED ARABIC-INDIC DIGIT FOUR ABOVE
eFOUR DOTS ABOVEeINVERTED VeSMALL ARABIC LETTER TAH AND TWO DOTSeTHREE DOTS BELOW
gBELOW AND THREE DOTS ABOVEeTWO DOTS VERTICALLY ABOVEcSHEENcSHEEN FINAL FORMdINITIAL FORM
dISOLATED FORMdMEDIAL FORMdWITH DOT BELOWcSTRAIGHT WAWcSUPERSCRIPT ALEFcSWASH KAFcTAHcTAH FINAL FORM
dINITIAL FORMdISOLATED FORMdMEDIAL FORMdWITH DOT BELOWeTHREE DOTS ABOVEgBELOWeTWO DOTS ABOVEcTCHEH
cTCHEH FINAL FORMdINITIAL FORMdISOLATED FORMdMEDIAL FORMdWITH DOT ABOVEeSMALL VcTCHEHEH
cTCHEHEH FINAL FORMdINITIAL FORMdISOLATED FORMdMEDIAL FORMcTEHcTEH FINAL FORMdINITIAL FORM
dISOLATED FORMdMARBUTAdMARBUTA FINAL FORMeGOALeISOLATED FORMdMEDIAL FORMdWITH RINGeSMALL TEH ABOVEfV
eTHREE DOTS ABOVE DOWNWARDScTEHEHcTEHEH FINAL FORMdINITIAL FORMdISOLATED FORMdMEDIAL FORMcTHAL
cTHAL FINAL FORMdISOLATED FORMcTHEHcTHEH FINAL FORMdINITIAL FORMdISOLATED FORMdMEDIAL FORMcTHIN YEH
cTTEHcTTEH FINAL FORMdINITIAL FORMdISOLATED FORMdMEDIAL FORMdWITH SMALL VcTTEHEHcTTEHEH FINAL FORM
dINITIAL FORMdISOLATED FORMdMEDIAL FORMcUcU FINAL FORMdISOLATED FORMdWITH HAMZA ABOVE
fABOVE ISOLATED FORMcUIGHUR KAZAKH KIRGHIZ ALEF MAKSURA INITIAL FORMhMEDIAL FORMcVEcVE FINAL FORM
dISOLATED FORMcVEHcVEH FINAL FORMdINITIAL FORMdISOLATED FORMdMEDIAL FORMcWAWcWAW FINAL FORM
dISOLATED FORMdWITH DOT ABOVEfWITHINeEXTENDED ARABIC-INDIC DIGIT THREE ABOVEiTWO ABOVEeHAMZA ABOVE
fABOVE FINAL FORMgISOLATED FORMeRINGeTWO DOTS ABOVEcYEHcYEH BARREEdBARREE FINAL FORMeISOLATED FORM
eWITH EXTENDED ARABIC-INDIC DIGIT THREE ABOVEjTWO ABOVEfHAMZA ABOVEgABOVE FINAL FORMhISOLATED FORM
dFINAL FORMdINITIAL FORMdISOLATED FORMdMEDIAL FORMdWITH HAMZA ABOVEfABOVE FINAL FORMgINITIAL FORM
gISOLATED FORMgMEDIAL FORMeSMALL VeTAILeTHREE DOTS BELOWeTWO DOTS BELOW AND DOT ABOVEiHAMZA ABOVE
iSMALL NOON ABOVEcYUcYU FINAL FORMdISOLATED FORMcZAHcZAH FINAL FORMdINITIAL FORMdISOLATED FORM
dMEDIAL FORMcZAINcZAIN FINAL FORMdISOLATED FORMdWITH INVERTED V ABOVE
bLIGATURE AIN WITH ALEF MAKSURA FINAL FORMgISOLATED FORMeJEEM INITIAL FORMfISOLATED FORM
fWITH MEEM FINAL FORMhINITIAL FORMeMEEM INITIAL FORMfISOLATED FORMfWITH ALEF MAKSURA FINAL FORM
gMEEM FINAL FORMhINITIAL FORMgYEH FINAL FORMeYEH FINAL FORMfISOLATED FORMcAKBAR ISOLATED FORM
cALAYHAA AS-SALAAMcALAYHE ISOLATED FORMcALAYHI AS-SALAAMeSALAATU WAS-SALAAMcALAYHIM AS-SALAAM
cALAYHIMAA AS-SALAAMcALEF MAKSURA WITH SUPERSCRIPT ALEF FINAL FORMhISOLATED FORM
dWITH FATHATAN FINAL FORMfISOLATED FORMcALLAH ISOLATED FORMcAZZA WA JALL
cBEH WITH ALEF MAKSURA FINAL FORMgISOLATED FORMeHAH INITIAL FORMfISOLATED FORMfWITH YEH FINAL FORM
eHEH INITIAL FORMfMEDIAL FORMeJEEM INITIAL FORMfISOLATED FORMeKHAH INITIAL FORMfISOLATED FORM
fWITH YEH FINAL FORMeMEEM FINAL FORMfINITIAL FORMfISOLATED FORMfMEDIAL FORMeNOON FINAL FORM
eREH FINAL FORMeYEH FINAL FORMfISOLATED FORMeZAIN FINAL FORMcBISMILLAH AR-RAHMAN AR-RAHEEM
cDAD WITH ALEF MAKSURA FINAL FORMgISOLATED FORMeHAH INITIAL FORMfISOLATED FORM
fWITH ALEF MAKSURA FINAL FORMgYEH FINAL FORMeJEEM INITIAL FORMfISOLATED FORMeKHAH INITIAL FORM
fISOLATED FORMfWITH MEEM FINAL FORMhINITIAL FORMeMEEM INITIAL FORMfISOLATED FORMeREH FINAL FORM
fISOLATED FORMeYEH FINAL FORMfISOLATED FORMcFEH WITH ALEF MAKSURA FINAL FORMgISOLATED FORM
eHAH INITIAL FORMfISOLATED FORMeJEEM INITIAL FORMfISOLATED FORMeKHAH INITIAL FORMfISOLATED FORM
fWITH MEEM FINAL FORMhINITIAL FORMeMEEM INITIAL FORMfISOLATED FORMfWITH YEH FINAL FORM
eYEH FINAL FORMfISOLATED FORMcGHAIN WITH ALEF MAKSURA FINAL FORMgISOLATED FORMeJEEM INITIAL FORM
fISOLATED FORMeMEEM INITIAL FORMfISOLATED FORMfWITH ALEF MAKSURA FINAL FORMgMEEM FINAL FORM
gYEH FINAL FORMeYEH FINAL FORMfISOLATED FORMcHAH WITH ALEF MAKSURA FINAL FORMgISOLATED FORM
eJEEM INITIAL FORMfISOLATED FORMfWITH YEH FINAL FORMeMEEM INITIAL FORMfISOLATED FORM
fWITH ALEF MAKSURA FINAL FORMgYEH FINAL FORMeYEH FINAL FORMfISOLATED FORM
cHEH WITH ALEF MAKSURA ISOLATED FORMeJEEM INITIAL FORMfISOLATED FORMeMEEM INITIAL FORMfISOLATED FORM
fWITH JEEM INITIAL FORMgMEEM INITIAL FORMeSUPERSCRIPT ALEF INITIAL FORMeYEH ISOLATED FORM
cJALLAJALALOUHOUcJEEM WITH ALEF MAKSURA FINAL FORMgISOLATED FORMeHAH INITIAL FORMfISOLATED FORM
fWITH ALEF MAKSURA FINAL FORMgYEH FINAL FORMeMEEM INITIAL FORMfISOLATED FORM
fWITH ALEF MAKSURA FINAL FORMgHAH FINAL FORMhINITIAL FORMgYEH FINAL FORMeYEH FINAL FORM
fISOLATED FORMcKAF WITH ALEF FINAL FORMfISOLATED FORMfMAKSURA FINAL FORMgISOLATED FORM
eHAH INITIAL FORMfISOLATED FORMeJEEM INITIAL FORMfISOLATED FORMeKHAH INITIAL FORMfISOLATED FORM
eLAM FINAL FORMfINITIAL FORMfISOLATED FORMfMEDIAL FORMeMEEM FINAL FORMfINITIAL FORMfISOLATED FORM
fMEDIAL FORMfWITH MEEM FINAL FORMhINITIAL FORMgYEH FINAL FORMeYEH FINAL FORMfISOLATED FORM
cKHAH WITH ALEF MAKSURA FINAL FORMgISOLATED FORMeHAH ISOLATED FORMeJEEM INITIAL FORMfISOLATED FORM
eMEEM INITIAL FORMfISOLATED FORMeYEH FINAL FORMfISOLATED FORMcLAM WITH ALEF FINAL FORMfISOLATED FORM
fMAKSURA FINAL FORMgISOLATED FORMfWITH HAMZA ABOVE FINAL FORMiISOLATED FORMhBELOW FINAL FORM
iISOLATED FORMgMADDA ABOVE FINAL FORMiISOLATED FORMeHAH INITIAL FORMfISOLATED FORM
fWITH ALEF MAKSURA FINAL FORMgMEEM FINAL FORMhINITIAL FORMgYEH FINAL FORMeHEH INITIAL FORM
eJEEM INITIAL FORMfISOLATED FORMfWITH JEEM FINAL FORMhINITIAL FORMgMEEM FINAL FORMhINITIAL FORM
gYEH FINAL FORMeKHAH INITIAL FORMfISOLATED FORMfWITH MEEM FINAL FORMhINITIAL FORMeMEEM FINAL FORM
fINITIAL FORMfISOLATED FORMfMEDIAL FORMfWITH HAH FINAL FORMhINITIAL FORMgYEH FINAL FORM
eYEH FINAL FORMfISOLATED FORMcMEEM WITH ALEF FINAL FORMfMAKSURA ISOLATED FORMeHAH INITIAL FORM
fISOLATED FORMfWITH JEEM INITIAL FORMgMEEM INITIAL FORMgYEH FINAL FORMeJEEM INITIAL FORM
fISOLATED FORMfWITH HAH INITIAL FORMgKHAH INITIAL FORMgMEEM INITIAL FORMgYEH FINAL FORM
eKHAH INITIAL FORMfISOLATED FORMfWITH JEEM INITIAL FORMgMEEM INITIAL FORMgYEH FINAL FORM
eMEEM FINAL FORMfINITIAL FORMfISOLATED FORMfWITH YEH FINAL FORMeYEH ISOLATED FORM
cMOHAMMAD ISOLATED FORMcNOON WITH ALEF MAKSURA FINAL FORMgISOLATED FORMeHAH INITIAL FORM
fISOLATED FORMfWITH ALEF MAKSURA FINAL FORMgMEEM INITIAL FORMgYEH FINAL FORMeHEH INITIAL FORM
fMEDIAL FORMeJEEM INITIAL FORMfISOLATED FORMfWITH ALEF MAKSURA FINAL FORMgHAH FINAL FORM
hINITIAL FORMgMEEM FINAL FORMhINITIAL FORMgYEH FINAL FORMeKHAH INITIAL FORMfISOLATED FORM
eMEEM FINAL FORMfINITIAL FORMfISOLATED FORMfMEDIAL FORMfWITH ALEF MAKSURA FINAL FORMgYEH FINAL FORM
eNOON FINAL FORMeREH FINAL FORMeYEH FINAL FORMfISOLATED FORMeZAIN FINAL FORM
cQAF WITH ALEF MAKSURA FINAL FORMgISOLATED FORMeHAH INITIAL FORMfISOLATED FORMeMEEM INITIAL FORM
fISOLATED FORMfWITH HAH FINAL FORMhINITIAL FORMgMEEM FINAL FORMgYEH FINAL FORMeYEH FINAL FORM
fISOLATED FORMcQALA USED AS KORANIC STOP SIGN ISOLATED FORMcQUDDISA SIRRAHcRADI ALLAAHU ANHeANHAA
eANHUMeANHUMAAeANHUNNAcRAHIMAHU ALLAAHcRAHIMAHUM ALLAAHcRASOUL ISOLATED FORM
cREH WITH SUPERSCRIPT ALEF ISOLATED FORMcSAD WITH ALEF MAKSURA FINAL FORMgISOLATED FORM
eHAH INITIAL FORMfISOLATED FORMfWITH HAH FINAL FORMhINITIAL FORMgYEH FINAL FORMeKHAH INITIAL FORM
eMEEM INITIAL FORMfISOLATED FORMfWITH MEEM FINAL FORMhINITIAL FORMeREH FINAL FORMfISOLATED FORM
eYEH FINAL FORMfISOLATED FORMcSALAAMUHU ALAYNAAcSALAM ISOLATED FORMcSALLA ISOLATED FORM
dUSED AS KORANIC STOP SIGN ISOLATED FORMcSALLALLAAHU ALAYHI WA-AALIHcSALLALLAHOU ALAYHE WASALLAM
cSALLALLAHU ALAYHI WAAALIHEE WA-SALLAMcSEEN WITH ALEF MAKSURA FINAL FORMgISOLATED FORM
eHAH INITIAL FORMfISOLATED FORMfMEDIAL FORMfWITH JEEM INITIAL FORMeHEH INITIAL FORMfMEDIAL FORM
eJEEM INITIAL FORMfISOLATED FORMfMEDIAL FORMfWITH ALEF MAKSURA FINAL FORMgHAH INITIAL FORM
eKHAH INITIAL FORMfISOLATED FORMfMEDIAL FORMfWITH ALEF MAKSURA FINAL FORMgYEH FINAL FORM
eMEEM INITIAL FORMfISOLATED FORMfMEDIAL FORMfWITH HAH FINAL FORMhINITIAL FORMgJEEM INITIAL FORM
gMEEM FINAL FORMhINITIAL FORMeREH FINAL FORMfISOLATED FORMeYEH FINAL FORMfISOLATED FORM
cSHADDA WITH DAMMA ISOLATED FORMfMEDIAL FORMeDAMMATAN ISOLATED FORMeFATHA ISOLATED FORMfMEDIAL FORM
eKASRA ISOLATED FORMfMEDIAL FORMeKASRATAN ISOLATED FORMeSUPERSCRIPT ALEF ISOLATED FORM
cSHEEN WITH ALEF MAKSURA FINAL FORMgISOLATED FORMeHAH FINAL FORMfINITIAL FORMfISOLATED FORM
fMEDIAL FORMfWITH MEEM FINAL FORMhINITIAL FORMgYEH FINAL FORMeHEH INITIAL FORMfMEDIAL FORM
eJEEM FINAL FORMfINITIAL FORMfISOLATED FORMfMEDIAL FORMfWITH YEH FINAL FORMeKHAH FINAL FORM
fINITIAL FORMfISOLATED FORMfMEDIAL FORMeMEEM FINAL FORMfINITIAL FORMfISOLATED FORMfMEDIAL FORM
fWITH KHAH FINAL FORMhINITIAL FORMgMEEM FINAL FORMhINITIAL FORMeREH FINAL FORMfISOLATED FORM
eYEH FINAL FORMfISOLATED FORMcSUBHAANAHU WA TAAALAAcTABAARAKA WA-TAAALAA
cTAH WITH ALEF MAKSURA FINAL FORMgISOLATED FORMeHAH INITIAL FORMfISOLATED FORMeMEEM INITIAL FORM
fISOLATED FORMfMEDIAL FORMfWITH HAH FINAL FORMhINITIAL FORMgMEEM INITIAL FORMgYEH FINAL FORM
eYEH FINAL FORMfISOLATED FORMcTEH WITH ALEF MAKSURA FINAL FORMgISOLATED FORMeHAH INITIAL FORM
fISOLATED FORMfWITH JEEM FINAL FORMhINITIAL FORMgMEEM INITIAL FORMeHEH INITIAL FORMfMEDIAL FORM
eJEEM INITIAL FORMfISOLATED FORMfWITH ALEF MAKSURA FINAL FORMgMEEM INITIAL FORMgYEH FINAL FORM
eKHAH INITIAL FORMfISOLATED FORMfWITH ALEF MAKSURA FINAL FORMgMEEM INITIAL FORMgYEH FINAL FORM
eMEEM FINAL FORMfINITIAL FORMfISOLATED FORMfMEDIAL FORMfWITH ALEF MAKSURA FINAL FORM
gHAH INITIAL FORMgJEEM INITIAL FORMgKHAH INITIAL FORMgYEH FINAL FORMeNOON FINAL FORMeREH FINAL FORM
eYEH FINAL FORMfISOLATED FORMeZAIN FINAL FORMcTHAL WITH SUPERSCRIPT ALEF ISOLATED FORM
cTHEH WITH ALEF MAKSURA FINAL FORMgISOLATED FORMeHEH MEDIAL FORMeJEEM ISOLATED FORMeMEEM FINAL FORM
fINITIAL FORMfISOLATED FORMfMEDIAL FORMeNOON FINAL FORMeREH FINAL FORMeYEH FINAL FORMfISOLATED FORM
eZAIN FINAL FORMcUIGHUR KIRGHIZ YEH WITH HAMZA ABOVE WITH ALEF MAKSURA FINAL FORMlINITIAL FORM
lISOLATED FORMcWASALLAM ISOLATED FORMcYEH WITH ALEF MAKSURA FINAL FORMgISOLATED FORM
eHAH INITIAL FORMfISOLATED FORMfWITH YEH FINAL FORMeHAMZA ABOVE WITH AE FINAL FORMiISOLATED FORM
hALEF FINAL FORMiISOLATED FORMiMAKSURA FINAL FORMjISOLATED FORMhE FINAL FORMiINITIAL FORM
iISOLATED FORMhHAH INITIAL FORMiISOLATED FORMhHEH INITIAL FORMiMEDIAL FORMhJEEM INITIAL FORM
iISOLATED FORMhKHAH INITIAL FORMhMEEM FINAL FORMiINITIAL FORMiISOLATED FORMiMEDIAL FORM
hNOON FINAL FORMhOE FINAL FORMiISOLATED FORMhREH FINAL FORMhU FINAL FORMiISOLATED FORM
hWAW FINAL FORMiISOLATED FORMhYEH FINAL FORMiISOLATED FORMhYU FINAL FORMiISOLATED FORM
hZAIN FINAL FORMeHEH INITIAL FORMfMEDIAL FORMeJEEM INITIAL FORMfISOLATED FORMfWITH YEH FINAL FORM
eKHAH INITIAL FORMfISOLATED FORMeMEEM FINAL FORMfINITIAL FORMfISOLATED FORMfMEDIAL FORM
fWITH MEEM FINAL FORMhINITIAL FORMgYEH FINAL FORMeNOON FINAL FORMeREH FINAL FORMeYEH FINAL FORM
fISOLATED FORMeZAIN FINAL FORMcZAH WITH MEEM INITIAL FORMfISOLATED FORMfMEDIAL FORMbMADDA WAAJIB
bMADDAH ABOVEbMARK NOON GHUNNAcSIDEWAYS NOON GHUNNAbMATHEMATICAL AINcALEFcBEHcDADcDALcDOTLESS BEH
dFEHdNOONdQAFcDOUBLE-STRUCK AINeBEHeDADeDALeFEHeGHAINeHAHeJEEMeKHAHeLAMeMEEMeNOONeQAFeREHeSADeSEEN
eSHEENeTAHeTEHeTHALeTHEHeWAWeYEHeZAHeZAINcFEHcGHAINcHAHcINITIAL AINdBEHdDADdFEHdGHAINdHAHdHEHdJEEM
dKAFdKHAHdLAMdMEEMdNOONdQAFdSADdSEENdSHEENdTEHdTHEHdYEHcJEEMcKAFcKHAHcLAMcLOOPED AINdALEFdBEHdDAD
dDALdFEHdGHAINdHAHdHEHdJEEMdKHAHdLAMdMEEMdNOONdQAFdREHdSADdSEENdSHEENdTAHdTEHdTHALdTHEHdWAWdYEHdZAH
dZAINcMEEMcNOONcOPERATOR HAH WITH DALdMEEM WITH HAH WITH TATWEELcQAFcREHcSADcSEENcSHEEN
cSTRETCHED AINdBEHdDADdDOTLESS BEHeFEHdFEHdGHAINdHAHdHEHdJEEMdKAFdKHAHdMEEMdNOONdQAFdSADdSEENdSHEEN
dTAHdTEHdTHEHdYEHdZAHcTAHcTAILED AINdDADdDOTLESS NOONeQAFdGHAINdHAHdJEEMdKHAHdLAMdNOONdQAFdSADdSEEN
dSHEENdYEHcTEHcTHALcTHEHcWAWcYEHcZAHcZAINbNUMBER MARK ABOVEcSIGNbOPEN DAMMATANcFATHATANcKASRATAN
bPERCENT SIGNbPIASTRE MARK ABOVEbPLACE OF SAJDAHbPOETIC VERSE SIGNbPOUND MARK ABOVEbQUESTION MARK
bRAISED ROUND DOTbRAYbREVERSED DAMMAbRIGHT ARROWHEAD ABOVEdABOVE WITH DOTdBELOW
bROUNDED HIGH STOP WITH FILLED CENTREbSEMICOLONbSHADDAbSHADDA ISOLATED FORMcMEDIAL FORM
bSIGN ALAYHE ASSALLAMcMISRAcRADI ALLAHOU ANHUcRAHMATULLAH ALAYHEcSAFHAcSALLALLAHOU ALAYHE WASSALLAM
cSAMVATcSANAHcSINDHI AMPERSANDdPOSTPOSITION MENcTAKHALLUSbSMALL DAMMAcFARSI YEHcFATHAcHIGH AIN
dDOTLESS HEAD OF KHAHdFARSI YEHdFOOTNOTE MARKERdJEEMdLAM ALEFdLIGATURE ALEF WITH LAM WITH YEH
eQAF WITH LAM WITH ALEF MAKSURAeSAD WITH LAM WITH ALEF MAKSURAdMADDAdMEEM INITIAL FORMeISOLATED FORM
dNOONdNOON WITH KASRAdQAFdROUNDED ZEROdSADdSEENdSIGN SAFHAdTAHdTHREE DOTSdUPRIGHT RECTANGULAR ZERO
dWAWdWORD AL-JUZeAN-NISFeAR-RUBeAS-SAJDAeATH-THALATHAeQIFeSAHeSAKTAeWAQFAdYEH
dYEH BARREE WITH TWO DOTS BELOWdZAHdZAINcKASRAcLOW MEEMdNOON WITH KASRAdSEENdWAWdWORD IMAALAeISHMAAM
eTASHEELcWAWcYEHbSTART OF RUB EL HIZBbSUBSCRIPT ALEFbSUKUNbSUKUN BELOWcISOLATED FORMcMEDIAL FORM
bSUPERSCRIPT ALEF MOKHASSASbSYMBOL DOT ABOVEdBELOWcDOUBLE VERTICAL BAR BELOWcFOUR DOTS ABOVEeBELOW
cRINGcSMALL TAH ABOVEeBELOWcTHREE DOTS ABOVEeBELOWePOINTING DOWNWARDS ABOVEgBELOWcTWO DOTS ABOVE
eBELOWeVERTICALLY ABOVEfBELOWcWASLA ABOVEbTAIL FRAGMENTbTATWEELbTATWEEL WITH FATHATAN ABOVE
dOVERSTRUCK HAMZAeWAWdTWO DOTS BELOWbTHOUSANDS SEPARATORbTONE LOOP ABOVEdBELOWcONE DOT ABOVEeBELOW
cTWO DOTS ABOVEeBELOWbTRIPLE DOT PUNCTUATION MARKbTURNED DAMMA BELOWbVERTICAL TAIL
bVOWEL SIGN DOT BELOWdINVERTED SMALL V ABOVEdSMALL V ABOVEbWAVY HAMZA BELOWbZWARAKAY
aARABIC-INDIC CUBE ROOTcDIGIT EIGHTdFIVEdFOURdNINEdONEdSEVENdSIXdTHREEdTWOdZEROcFOURTH ROOT
cPER MILLE SIGNdTEN THOUSAND SIGNaARCaARIESaARMENIAN ABBREVIATION MARKbAPOSTROPHEbCAPITAL LETTER AYB
dBENdCAdCHAdCHEHdCOdDAdECHdEHdETdFEHdGHADdGIMdHOdINIdJAdJHEHdKEHdKENdLIWNdMENdNOWdOHdPEHdPIWRdRAdREH
dSEHdSHAdTIWNdTOdVEWdVOdXEHdYIdYIWNdZAdZHEbCOMMAbDRAM SIGNbEMPHASIS MARKbEXCLAMATION MARKbFULL STOP
bHYPHENbMODIFIER LETTER LEFT HALF RINGbQUESTION MARKbSMALL LETTER AYBdBENdCAdCHAdCHEHdCOdDAdECHdEH
dETdFEHdGHADdGIMdHOdINIdJAdJHEHdKEHdKENdLIWNdMENdNOWdOHdPEHdPIWRdRAdREHdSEHdSHAdTIWNdTOdTURNED AYB
dVEWdVOdXEHdYIdYI WITH STROKEdYIWNdZAdZHEcLIGATURE ECH YIWNdMEN ECHeINIeNOWeXEHdVEW NOW
aARROW POINTING DOWNWARDS THEN CURVING LEFTWARDSfRIGHTWARDScRIGHTWARDS THEN CURVING DOWNWARDS
fSOUTH WESTfUPWARDScUPWARDS THEN NORTH WESTaARROWHEAD-SHAPED POINTERaARTICULATED LORRY
aARTIST PALETTEaASCENDING NODEaASCIA SYMBOLaASSERTIONaASTERISKaASTERISK OPERATORaASTERISM
aASTONISHED FACEaASTRAEAaASTRONOMICAL SYMBOL FOR URANUSaASYMPTOTICALLY EQUAL TOaATHLETIC SHOE
aATOM SYMBOLaAUBERGINEaAUSTRAL SIGNaAUTO RICKSHAWaAUTOMATED TELLER MACHINEaAUTOMOBILE
aAVESTAN ABBREVIATION MARKbLETTER AcAAcAANcAAOcAEcAEEcANcAOcBEcBHEcCEcDEcDHEcEcEEcFEcGEcGGEcGHEcHE
cHMEcIcIIcJEcKEcLEcMEcNEcNGEcNGVEcNGYEcNNEcNYEcOcOOcPEcREcSEcSHEcSHYEcSSHEcTEcTHEcTTEcUcUUcVEcXEcXVE
cXYEcYEcYYEcZEcZHEaAVOCADOaAXEaBABYaBABY ANGELbBOTTLEbCHICKbSYMBOLaBACK OF ENVELOPE
bWITH LEFTWARDS ARROW ABOVEaBACK-TILTED SHADOWED WHITE RIGHTWARDS ARROW
aBACKSLANTED SOUTH ARROW WITH HOOKED TAILeHORIZONTAL TAILaBACKSPACEaBACONaBACTRIAN CAMELaBADGER
aBADMINTON RACQUET AND SHUTTLECOCKaBAGELaBAGGAGE CLAIMaBAGUETTE BREADaBALINESE ADEG ADEG
bCARIK PAMUNGKAHcPARERENcSIKIbDIGIT EIGHTcFIVEcFOURcNINEcONEcSEVENcSIXcTHREEcTWOcZERObLETTER AIKARA
cAKARAcAKARA TEDUNGcARCHAIC JNYAcASYURA SASAKcBAcBA KEMBANGcCAcCA LACAcDAcDA MADUdMURDA ALPAPRANA
eMAHAPRANAcEF SASAKcEKARAcGAcGA GORAcHAcIKARAcIKARA TEDUNGcJAcJA JERAcKAcKA MAHAPRANAcKAF SASAK
cKHOT SASAKcLAcLA LENGAdLENGA TEDUNGcMAcNAcNA RAMBATcNGAcNYAcOKARAcOKARA TEDUNGcPAcPA KAPALcRA
cRA REPAdREPA TEDUNGcSAcSA SAGAdSAPAcTAcTA LATIKdMURDA MAHAPRANAdTAWAcTZIR SASAKcUKARAcUKARA TEDUNG
cVE SASAKcWAcYAcZAL SASAKbMUSICAL SYMBOL COMBINING BENDEeENDEPeGONGeJEGOGANeKEMPLI
eKEMPLI WITH JEGOGANeKEMPULeKEMPUL WITH JEGOGANeTEGEHdDAENGdDAINGdDANGdDANG GEDEeSURANGdDENGdDEUNG
dDINGdDONGdDUNGdLEFT-HAND CLOSED PLAKgPLUKfOPEN PANGgPINGgPUNGdRIGHT-HAND CLOSED TAKgTUKfOPEN DAG
gDUGbPAMADAbPAMADA LANTANGbPAMENENGbPANTIbPANTI LANTANGbSIGN BISAHcCECEKcREREKANcSURANGcULU CANDRA
dRICEMbVOWEL SIGN LA LENGAeLENGA TEDUNGdPEPETdPEPET TEDUNGdRA REPAeREPA TEDUNGdSUKUdSUKU ILUTdTALING
dTALING REPAeREPA TEDUNGeTEDUNGdTEDUNGdULUdULU SARIbWINDUaBALL OF YARNaBALLET SHOESaBALLOON
aBALLOON-SPOKED ASTERISKaBALLOT BOLD SCRIPT XbBOXbBOX WITH BALLOTdBOLD CHECKeSCRIPT XdCHECKdLIGHT X
dSCRIPT XdXbSCRIPT XbXaBAMUM COLONbCOMBINING MARK KOQNDONdTUKWENTISbCOMMAbFULL STOPbLETTER AcEE
cFAAMAEcFEEcFOMcFUcIcKAcKENcKETcKEUXcKIcKOcKOGHOMcKOVUUcKPAcKUcKYEEcLAcLEEEEcLIcLOQcLUcMcMAcMBAA
cMBENcMEEEEcMENcMIcMOcMUcNAcNDAAcNGAcNGGAcNGKWAENcNIcNJAEMcNJEEcNJUAEcNSHAcNTEEcNTUUcNUcNUAEcNYIcO
cPAcPEEcPEUXcPHASE-A FIRIeGBIEE FONeGHEUAEGHEUAEeGHEUAERAEeKAFAeKAQeKETeKEUKEUTNDAeKPOQeKUOQeLAPAQ
eLET KUTeLOMMAEeLUeLUAEPeMAEKEUPeMAEMeMAEMBGBIEEeMAEMKPENeMAEMVEUXeMAENYIeMAESIeMANSUAEeMAP PIEET
eMBANYIeMBAQeMEUNJOMNDEUQeMGBASAeMON NGGEUAETeMOOMEUTeMOOMPUQeMVEUAENGAMeNAA MFONeNAQeNDA LEERAEWA
eNDAANGGEUAETeNENeNGANGUeNGGENeNGKUE MFONeNGKUENZEUMeNIKAeNJAMeNKAARAEeNKINDIeNSHAeNSHIEEeNTAP
eNTAP MFAAfNTAAeNTOQPENeNYETeNYIeNYIT MONGKEUAEQeNZA MFONeNZUN MEUTePA LEERAEWAePAAMePAARAEePAMSHAE
ePASHAEePETePON MFON PIPAEMBAgPIPAEMGBIEEfPA NJI PIPAEMBAhPIPAEMGBIEEePUPeROMeSEUNYAMeSHINDA PA NJI
eSHIRAEeSHOQ NSHUT YUMeSHUENSHUETeSHUMeSISAeSONJAMeSOQeSOTeSUUeTEUAENeTEUTEUWENeTITA MFONeTU MAEMBA
eTUAEPeU YUQ NAEeUNKNOWNeVEEdB FEEeFEUXeGHEUGHENeGHEUGHEUAEMeKAMeKEUAEMeKEUPUQeKEUYEUXeKIEEMeKIQ
eLAANAEeLAM NSHUT NYAMeLETeLOM NTEUMeMAeMA NJEUAENAfNJUQAeMBA MAELEEeMBAARAEeMBEURIeMBIT MBAAKET
eMBUOQeMEUQeMEUT NGGEETeMFIYAQeMFON TEUAEQeMONTIEENeNDU NJAAeNGGAAMeNGGEU MBUeNGGUOQeNGGUOQ LARGE
eNGKINDI MVOPeNGOMeNSENeNSHUETeNTIEE SHEUOQeNYAEMAEeNYI NTEUMePARUMePEESHIePITePUNGAAMeSAKEUAE
eSET TUeSHET NJAQeSHEUAEQTUeSIEEeSUEeTAAMeTU MAEMGBIEEfNSIEEeVEUMeWUAETeYAFU LEERAEWAeYEURAEdC BUNG
eFUEeGBAYIeGHAPeGHARAEeKAAeKEN FATIGUEfLAWeKETeKEUKAQeKEUMeKEUSEUXeKEUSHEUAEPeKPARAQeKUOP NKAARAE
eKUTeLAMeLAPeLIQeLUeMA KEUAERIfNSIEEeMAEMBAeMAESIeMBAA CABBAGE-TREEfPICKETeMBANYIeMBEEKEETeMBERAE
eMBEUMeMBEUXeMBIeMBIRIEENeMBITeMBUAEMeMBUEeMGBASAQeMIEEeMUAEeNANSANAQeNAQeNDAMeNDAPeNDEUAEREEeNDEUT
eNDIDAeNDOMBUeNGAQeNGGENeNGGUeNGGUAEN NYAMeNGGUEETeNGGUMeNGGUONeNGKAQeNGKUE MAEMBAeNGOMeNJAEMeNJAM
eNJEEEEeNJEUXeNJUEQeNSAeNSEUAENeNSHAQeNSOMeNSUNeNSUOT NGOMeNTAAeNTENeNTEUNGBAeNTU MBIT
eNYIR MKPARAQ MEUNeNZAeNZEUMePENePINePIRIEENeRUeSETFONeSEUXeSHIQeSHUEQeSUAETeTAASHAEeTETeTEUTEUX
eTITA YUEeTITUAEPeVEUAEPENeVEUXeWANGKUOQeWUPeYAAeYEUQeYU MUOMAEeYUMeYUWOQdD FAAeFEUFEUAETeGHAA
eGHEUAEeKETeKEUAETMEUNeKEUMeKEUOT MBUAEeKEUPeKUeKUNeKUOMeKUQeKWAETeKYEEeLEEEEeLETeLEUAEPeLEUMeLIEE
eLOQeLUMeMeMAENJETeMALEERIeMBAAeMBAA SEVENeMBUOeMEEEEeMEUNeMEUTeMFEUAEeMFEUTeMFIEEeMFOeMFONeMGBEUN
eMGBIEEeMGBOFUMeMONIeMUeMVOPeNDAMeNDEEeNDEUXeNDONeNGGAAMeNGGAAMAEeNGGAPeNGGEUXeNGGUOMeNGGWAENeNGKAP
eNGKEUAEQeNGKEURIeNGKIEEeNGKUNeNGKYEEeNIeNJAPeNJEUAEMeNJEUTeNJIeNJIEEeNJUEQeNSHEEeNSHUTeNSIEEP
eNSIEETeNSUMeNTEEeNTEUMeNTUUeNUeNYAMeNYETeNYIeNYUEePAPePEEePEUTAEePIPePUQePUUTeRAEMeREN MUCHfOLDeRII
eSAPeSAQeSEUAEQeSHEEeSHEUAEeSHEUXeSHIIeSHOQeSHUeSOTeSUAEeSUEeSUUeTAEeTEEEEeTEUAENeTEUNeTEUTeTIeTOQ
eTUeTUOTeWAPeWUAENeYAEMMAEeYENeYUOMeYUOPeYUWOQdE AeFAeFAQeFEEeFOMeFU CALLfIfREMEDYeFUEeFUETeGBET
eGBEUXeGHAAMAEeGHETeGHEUAEeGHEUNeGHEUXeGHOMeIeKETeKEUAEeKEUXeKIeKOeKPEUXeKUETeKUOPeKUTeLAAMeLAPeLAQ
eLEUAEMeLOMeLOONeLOOTeLOQeLUeMAeMAEeMAEMeMAPeMAQeMBEEeMBEUMeMENeMFEUQeMGBAeMGBENeMIeMIEEeMONeMUAE
eMVIeNAeNAEeNDAA MY HOUSEfSOFTNESSeNDAPeNDIAQeNDIQeNDUNeNGAeNGEUREUTeNGGEEEEeNGGEUAEeNGGEUAET
eNGGUAESHAE NYAMeNGGUPeNGGURAEeNGKAeNGKAAMIeNGKEUAEMeNGKEUXeNGKUMeNGKUPeNGOPeNGOQeNGUAEeNGUAET
eNJAEMLIeNJEEeNJEE EPOCHeNJEUXeNKOMeNSHIEEeNSHUEeNSHUOPeNTAPeNTUMeNYI BETWEENfCLEAVEReNZAQeNZUQeO
ePA PEOPLEfPLURALePAAePAAMePEEMePEUTePEUXePIePIEEQePIETePOePOONePUePUAEePUAQePUEePUMeRAEeRAQeREUX
eRIMGBAeSAAeSEEeSETeSHEUAEQeSHIQeSHOeSHOQeSOMeSUAENeTAAeTAAQeTAEN NTEUMeTAMeTAQeTENeTEUeTEUAEQeTOO
eTOONeTOQeTUAEeTUMeTUMAEeVEEeVEUAEeVOMeWEUXeWUEeWUOeYAPeYEUAEeYEUAETeYEUMeYEUXeYIEEeYITeYOQ COVER
fSWIMMINGeYUAENeYUEQeYUNeYUQdF EEeFOMeKAeKENeKETeKOeKPAeKUeKYEEeLAeLIeLOQeMeMAeMBAAeMBENeMEEEEeMO
eNDAAeNGGAeNGKWAENeNIeNJAEMeNJUAEeNSHAeNTEEeNUeNUAEeNYIePEEePEUXePUAEeREEeRENeREUXeRIEEeRIIeRUeSAMBA
eSEUXeSHIIeSHOeSHUeSIeSUUeTAAeTAEeTETeUeVUEQeWAeWUEeYAeYOQcPIcPUAEcPUEcRAEcREEcRENcREUXcRIEEcRIIcRU
cSAMBAcSEUXcSHEUXcSHIIcSHOcSHUcSIcSUUcTAAcTAEcTENcTETcTIcUcWAcWUEcYAcYOQcYUQbNJAEMLIbQUESTION MARK
bSEMICOLONaBANANAaBANJOaBANKaBANKNOTE WITH DOLLAR SIGNcEURO SIGNcPOUND SIGNcYEN SIGNaBAR CHART
bOF SOAPaBARBER POLEaBASEBALLaBASKETaBASKETBALL AND HOOPaBASSA VAH COMBINING HIGH TONEdHIGH-LOW TONE
dLOW TONEdLOW-MID TONEdMID TONEcFULL STOPcLETTER AdBAdCEdDHIIdDOdEdEEdENNIdFAdGAHdGBUdHWAHdIdJOdKA
dKPAHdMBEdOdOOdPAdSEdTOdUdUWUdVUdWAdWADDAdYEINdYIEdZOaBATaBATAK CONSONANT SIGN HdNGbLETTER AcBAcCA
cDAcGAcHAcIcJAcKARO BAcLAcMAcMANDAILING HAdNAdSAcMBAcNAcNDAcNGAcNORTHERN TAcNYAcPAcPAKPAK WAcRAcSA
cSIMALUNGUN AdGAdHAdLAdMAdPAdRAdSAdWAdYAcSOUTHERN TAcUcWAcYAbPANGOLATbPANONGONANbSIGN TOMPI
bSYMBOL BINDU JUDULdNA METEKdPANGOLATdPINARBORASbVOWEL SIGN EdEEdIdKARO IeOdOdPAKPAK EdU
dU FOR SIMALUNGUN SAaBATHaBATHTUBaBATTERYaBEACH WITH UMBRELLAaBEAMED ASCENDING MUSICAL NOTES
bDESCENDING MUSICAL NOTESbEIGHTH NOTESbSIXTEENTH NOTESaBEANSaBEAR FACEaBEARDED PERSONaBEATING HEART
aBEAVERaBECAUSEaBEDaBEER MUGaBEETLEaBELaBELLaBELL PEPPERbSYMBOLbWITH CANCELLATION STROKE
aBELLHOP BELLaBENGALI ABBREVIATION SIGNbANJIbAU LENGTH MARKbCURRENCY DENOMINATOR SIXTEEN
cNUMERATOR FOURdONEdONE LESS THAN THE DENOMINATORdTHREEdTWObDIGIT EIGHTcFIVEcFOURcNINEcONEcSEVENcSIX
cTHREEcTWOcZERObGANDA MARKbISSHARbLETTER AcAAcAIcAUcBAcBHAcCAcCHAcDAcDDAcDDHAcDHAcEcGAcGHAcHAcIcII
cJAcJHAcKAcKHAcKHANDA TAcLAcMAcNAcNGAcNNAcNYAcOcPAcPHAcRAcRA WITH LOWER DIAGONALeMIDDLE DIAGONALcRHA
cRRAcSAcSHAcSSAcTAcTHAcTTAcTTHAcUcUUcVEDIC ANUSVARAcVOCALIC LdLLdRdRRcYAcYYAbRUPEE MARKcSIGN
bSANDHI MARKbSIGN ANUSVARAcAVAGRAHAcCANDRABINDUcNUKTAcVIRAMAcVISARGAbVOWEL SIGN AAdAIdAUdEdIdIIdOdU
dUUdVOCALIC LeLLeReRRaBENT ARROW POINTING DOWNWARDS THEN NORTH EASTaBENTO BOXaBENZENE RING
bRING WITH CIRCLEaBET SYMBOLaBETWEENaBEVERAGE BOXaBHAIKSUKI DANDAbDIGIT EIGHTcFIVEcFOURcNINEcONE
cSEVENcSIXcTHREEcTWOcZERObDOUBLE DANDAbGAP FILLER-1d2bHUNDREDS UNIT MARKbLETTER AcAAcAIcAUcBAcBHAcCA
cCHAcDAcDDAcDDHAcDHAcEcGAcGHAcHAcIcIIcJAcJHAcKAcKHAcLAcMAcNAcNGAcNNAcNYAcOcPAcPHAcRAcSAcSHAcSSAcTA
cTHAcTTAcTTHAcUcUUcVAcVOCALIC LdRdRRcYAbNUMBER EIGHTcEIGHTYcFIFTYcFIVEcFORTYcFOURcNINEcNINETYcONE
cSEVENcSEVENTYcSIXcSIXTYcTENcTHIRTYcTHREEcTWENTYcTWObSIGN ANUSVARAcAVAGRAHAcCANDRABINDUcVIRAMA
cVISARGAbVOWEL SIGN AAdAIdAUdEdIdIIdOdUdUUdVOCALIC LeReRRbWORD SEPARATORaBICYCLEaBICYCLIST
aBIG REVERSE SOLIDUSbSOLIDUSaBIKINIaBILLED CAPaBILLIARDSaBIOHAZARD SIGNaBIRDaBIRTHDAY CAKEaBISON
aBITCOIN SIGNaBITING LIPaBLACK BOWTIEbCENTRE WHITE STARbCHESS BISHOPcBISHOP ROTATED NINETY DEGREES
eTWO HUNDRED SEVENTY DEGREEScEQUIHOPPERcEQUIHOPPER ROTATED NINETY DEGREEScKING
cKING ROTATED NINETY DEGREESeTWO HUNDRED SEVENTY DEGREEScKNIGHTcKNIGHT ROTATED FORTY-FIVE DEGREES
eNINETY DEGREESeONE HUNDRED THIRTY-FIVE DEGREESeTHREE HUNDRED FIFTEEN DEGREES
eTWO HUNDRED SEVENTY DEGREESgTWENTY-FIVE DEGREEScKNIGHT-BISHOPdQUEENdROOKcPAWN
cPAWN ROTATED NINETY DEGREESeTWO HUNDRED SEVENTY DEGREEScQUEENcQUEEN ROTATED NINETY DEGREES
eTWO HUNDRED SEVENTY DEGREEScROOKcROOK ROTATED NINETY DEGREESeTWO HUNDRED SEVENTY DEGREES
cTURNED BISHOPdKINGdKNIGHTdPAWNdQUEENdROOKbCIRCLEbCIRCLE FOR RECORDcWITH DOWN ARROWdTWO WHITE DOTS
dWHITE DOT RIGHTbCLUB SUITbCROSS ON SHIELDbCURVED DOWNWARDS AND LEFTWARDS ARROWeRIGHTWARDS ARROW
cLEFTWARDS AND DOWNWARDS ARROWeUPWARDS ARROWcRIGHTWARDS AND DOWNWARDS ARROWeUPWARDS ARROW
cUPWARDS AND LEFTWARDS ARROWeRIGHTWARDS ARROWbDIAMONDbDIAMOND CENTREDcMINUS WHITE XcON CROSScSUIT
cWITH DOWN ARROWbDOWN POINTING BACKHAND INDEXbDOWN-POINTING DOUBLE TRIANGLEdISOSCELES RIGHT TRIANGLE
dSMALL TRIANGLEdTRIANGLEbDOWNWARDS EQUILATERAL ARROWHEADbDRAUGHTS KINGcMANbDROPLETbFLAGbFLORETTE
bFOLDERbFOUR POINTED STARbHARD SHELL FLOPPY DISKbHEARTbHEART SUITbHEXAGONbHORIZONTAL ELLIPSE
bHOURGLASSbLARGE CIRCLEcSQUAREbLEFT LANE MERGEcPOINTING BACKHAND INDEXdINDEX
bLEFT-POINTING DOUBLE TRIANGLEeTRIANGLE WITH VERTICAL BARdISOSCELES RIGHT TRIANGLEdPOINTER
dSMALL TRIANGLEdTRIANGLEbLEFTWARDS BULLETcEQUILATERAL ARROWHEADbLOWER LEFT TRIANGLEcRIGHT TRIANGLE
bLOZENGEbMEDIUM DIAMONDcDOWN-POINTING TRIANGLEeTRIANGLE CENTREDcLEFT-POINTING TRIANGLE
eTRIANGLE CENTREDcLOZENGEcRIGHT-POINTING TRIANGLEeTRIANGLE CENTREDcSMALL DIAMONDdLOZENGEdSQUARE
cSQUAREcUP-POINTING TRIANGLEeTRIANGLE CENTREDbMOON LILITHbNIBbOCTAGONbPARALLELOGRAMbPENNANTbPENTAGON
bPUSHPINbQUESTION MARK ORNAMENTbRECTANGLEbRIGHT POINTING BACKHAND INDEXdINDEX
bRIGHT-POINTING DOUBLE TRIANGLEeTRIANGLE WITH VERTICAL BARdISOSCELES RIGHT TRIANGLEdPENTAGONdPOINTER
dSMALL TRIANGLEdTRIANGLEdTRIANGLE WITH DOUBLE VERTICAL BARbRIGHTWARDS ARROWcARROWHEADcBULLET
cEQUILATERAL ARROWHEADbROSETTEbSAFETY SCISSORSbSCISSORSbSHOGI PIECEbSKULL AND CROSSBONES
bSLIGHTLY SMALL CIRCLEdSQUAREbSMALL DIAMONDcLOZENGEcSQUAREcSTARbSMILING FACEbSNOWMANbSPADE SUIT
bSQUAREbSQUARE BUTTONcCENTREDcFOR STOPbSTARbSUN WITH RAYSbTELEPHONEbTINY DIAMONDcLOZENGEcSQUARE
bTOUCHTONE TELEPHONEbTRUCKbTWO-WAY LEFT WAY TRAFFICbUNIVERSAL RECYCLING SYMBOL
bUP POINTING BACKHAND INDEXbUP-POINTING DOUBLE TRIANGLEdISOSCELES RIGHT TRIANGLEdSMALL TRIANGLE
dTRIANGLEbUPPER LEFT TRIANGLEcRIGHT TRIANGLEbUPWARDS EQUILATERAL ARROWHEADbVERTICAL ELLIPSE
cRECTANGLEbVERY SMALL DIAMONDdLOZENGEdSQUAREaBLACK-FEATHERED NORTH EAST ARROWcRIGHTWARDS ARROW
cSOUTH EAST ARROWbLETTER CAPITAL CdHdIdRdZaBLANK SYMBOLaBLOCK SEXTANT-1c12c123c1234c12345c12346c1235
c12356c1236c124c1245c12456c1246c125c1256c126c13c134c1345c13456c1346c1356c136c14c145c1456c146c15c156
c16c2c23c234c2345c23456c2346c235c2356c236c24c245c2456c25c256c26c3c34c345c3456c346c35c356c36c4c45c456
c46c5c56c6aBLOSSOMaBLOWFISHaBLUE BOOKbHEARTaBLUEBERRIESaBOARaBOLD EIGHT SPOKED ASTERISK
bFIVE SPOKED ASTERISKbGREEK CROSSbSALTIREbSIX SPOKED ASTERISKbWHITE CIRCLEcSQUAREaBOMaBOMBaBONEaBOOK
aBOOKMARKaBOOKMARK TABSaBOOKSaBOOMERANGaBOPOMOFO FINAL LETTER GdHdKdPdTbLETTER AcAHcAIcAINNcAMcAN
cANGcANNcAUcAUNNcBcBUcCcCHcDcEcEEcEHcEIcENcENGcENNcERcFcGcGHcGNcGUcGWcHcIcIHcIMcINNcINNNcIRcIUcJcJI
cKcKWcLcLHcMcNcNGcNGGcNNcOcO WITH DOT ABOVEcOEcOMcONGcONNcOOcOUcPcQcRcScSHcTcUcUNNcVcXcZcZHcZIcZY
aBOTTLE WITH POPPING CORKaBOTTOM ARC ANTICLOCKWISE ARROWbCURLY BRACKETbHALF BLACK CIRCLEcINTEGRAL
cLEFT PARENTHESIScRIGHT PARENTHESISbLEFT CORNERcCROPcHALF BRACKETbPARENTHESISbRIGHT CORNERcCROP
cHALF BRACKETbSQUARE BRACKETcBRACKET OVER TOP SQUARE BRACKETbTORTOISE SHELL BRACKETaBOUQUET
aBOUQUET OF FLOWERSaBOW AND ARROWaBOWL OF HYGIEIAbWITH SPOONaBOWLINGaBOWTIE
aBOWTIE WITH LEFT HALF BLACKcRIGHT HALF BLACKaBOX DRAWINGS DOUBLE DOWN AND HORIZONTALfLEFTfRIGHT
dHORIZONTALdUP AND HORIZONTALfLEFTfRIGHTdVERTICALdVERTICAL AND HORIZONTALfLEFTfRIGHT
cDOWN DOUBLE AND HORIZONTAL SINGLEfLEFT SINGLEfRIGHT SINGLEdHEAVY AND HORIZONTAL LIGHTfLEFT LIGHT
gUP LIGHTfRIGHT LIGHTgUP LIGHTfUP HORIZONTAL LIGHTdLIGHT AND HORIZONTAL HEAVYfLEFT HEAVYgUP HEAVY
fRIGHT HEAVYgUP HEAVYfUP HORIZONTAL HEAVYdSINGLE AND HORIZONTAL DOUBLEfLEFT DOUBLEfRIGHT DOUBLE
cHEAVY DOUBLE DASH HORIZONTALfVERTICALdDOWNdDOWN AND HORIZONTALfLEFTfRIGHTdHORIZONTALdLEFT
dLEFT AND LIGHT RIGHTdQUADRUPLE DASH HORIZONTALfVERTICALdRIGHTdTRIPLE DASH HORIZONTALfVERTICALdUP
dUP AND HORIZONTALfLEFTfLIGHT DOWNfRIGHTdVERTICALdVERTICAL AND HORIZONTALfLEFTfRIGHT
cLEFT DOWN HEAVY AND RIGHT UP LIGHTdHEAVY AND RIGHT DOWN LIGHTgUP LIGHTgVERTICAL LIGHT
dLIGHT AND RIGHT DOWN HEAVYgUP HEAVYgVERTICAL HEAVYdUP HEAVY AND RIGHT DOWN LIGHT
cLIGHT ARC DOWN AND LEFTgRIGHTeUP AND LEFTgRIGHTdDIAGONAL CROSSeDIAMONDeMIDDLE LEFT TO LOWER CENTRE
iCENTRE TO MIDDLE RIGHThUPPER CENTRE TO MIDDLE RIGHTlRIGHT TO LOWER CENTREfRIGHT TO LOWER CENTRE
hUPPER CENTRE TO MIDDLE LEFT TO LOWER CENTREeUPPER CENTRE TO MIDDLE LEFT
iLEFT AND MIDDLE RIGHT TO LOWER CENTREjTO LOWER CENTRElCENTRE TO MIDDLE RIGHTiRIGHT
iRIGHT AND MIDDLE LEFT TO LOWER CENTREjTO LOWER CENTRElCENTRE TO MIDDLE LEFTfLEFT TO LOWER RIGHT
fRIGHT TO LOWER LEFTdDOUBLE DASH HORIZONTALfVERTICALdDOWNdDOWN AND HORIZONTALfLEFTfRIGHTdHORIZONTAL
dHORIZONTAL WITH VERTICAL STROKEdLEFTdLEFT AND HEAVY RIGHTdQUADRUPLE DASH HORIZONTALfVERTICALdRIGHT
dTRIPLE DASH HORIZONTALfVERTICALdUPdUP AND HEAVY DOWNfHORIZONTALfLEFTfRIGHTdVERTICAL
dVERTICAL AND HORIZONTALfLEFTfRIGHTcRIGHT DOWN HEAVY AND LEFT UP LIGHTdHEAVY AND LEFT DOWN LIGHT
gUP LIGHTgVERTICAL LIGHTdLIGHT AND LEFT DOWN HEAVYgUP HEAVYgVERTICAL HEAVY
dUP HEAVY AND LEFT DOWN LIGHTcUP DOUBLE AND HORIZONTAL SINGLEfLEFT SINGLEfRIGHT SINGLE
dHEAVY AND DOWN HORIZONTAL LIGHTfHORIZONTAL LIGHTfLEFT DOWN LIGHTgLIGHTfRIGHT DOWN LIGHTgLIGHT
dLIGHT AND DOWN HORIZONTAL HEAVYfHORIZONTAL HEAVYfLEFT DOWN HEAVYgHEAVYfRIGHT DOWN HEAVYgHEAVY
dSINGLE AND HORIZONTAL DOUBLEfLEFT DOUBLEfRIGHT DOUBLEcVERTICAL DOUBLE AND HORIZONTAL SINGLE
fLEFT SINGLEfRIGHT SINGLEdHEAVY AND HORIZONTAL LIGHTfLEFT LIGHTfRIGHT LIGHT
dLIGHT AND HORIZONTAL HEAVYfLEFT HEAVYfRIGHT HEAVYdSINGLE AND HORIZONTAL DOUBLEfLEFT DOUBLE
fRIGHT DOUBLEaBOXING GLOVEaBOYaBOYS SYMBOLaBPHaBRAHMI DANDAbDIGIT EIGHTcFIVEcFOURcNINEcONEcSEVENcSIX
cTHREEcTWOcZERObDOUBLE DANDAbLETTER AcAAcAIcAUcBAcBHAcCAcCHAcDAcDDAcDDHAcDHAcEcGAcGHAcHAcIcIIcJAcJHA
cKAcKHAcLAcLLAcMAcNAcNGAcNNAcNYAcOcOLD TAMIL LLAeLLLAeNNNAeRRAeSHORT EfOcPAcPHAcRAcSAcSHAcSSAcTAcTHA
cTTAcTTHAcUcUUcVAcVOCALIC LdLLdRdRRcYAbNUMBER EIGHTcEIGHTYcFIFTYcFIVEcFORTYcFOURcJOINERcNINEcNINETY
cONEcONE HUNDREDdTHOUSANDcSEVENcSEVENTYcSIXcSIXTYcTENcTHIRTYcTHREEcTWENTYcTWO
bPUNCTUATION CRESCENT BARcDOTcDOUBLE DOTcLINEcLOTUSbSIGN ANUSVARAcCANDRABINDUcJIHVAMULIYA
cOLD TAMIL VIRAMAcUPADHMANIYAcVISARGAbVIRAMAbVOWEL SIGN AAdAIdAUdBHATTIPROLU AAdEdIdIIdO
dOLD TAMIL SHORT EgOdUdUUdVOCALIC LeLLeReRRaBRAILLE PATTERN BLANKcDOTS-1d12d123d1234d12345d123456
d1234567d12345678d1234568d123457d1234578d123458d12346d123467d1234678d123468d12347d123478d12348d1235
d12356d123567d1235678d123568d12357d123578d12358d1236d12367d123678d12368d1237d12378d1238d124d1245
d12456d124567d1245678d124568d12457d124578d12458d1246d12467d124678d12468d1247d12478d1248d125d1256
d12567d125678d12568d1257d12578d1258d126d1267d12678d1268d127d1278d128d13d134d1345d13456d134567
d1345678d134568d13457d134578d13458d1346d13467d134678d13468d1347d13478d1348d135d1356d13567d135678
d13568d1357d13578d1358d136d1367d13678d1368d137d1378d138d14d145d1456d14567d145678d14568d1457d14578
d1458d146d1467d14678d1468d147d1478d148d15d156d1567d15678d1568d157d1578d158d16d167d1678d168d17d178d18
d2d23d234d2345d23456d234567d2345678d234568d23457d234578d23458d2346d23467d234678d23468d2347d23478
d2348d235d2356d23567d235678d23568d2357d23578d2358d236d2367d23678d2368d237d2378d238d24d245d2456d24567
d245678d24568d2457d24578d2458d246d2467d24678d2468d247d2478d248d25d256d2567d25678d2568d257d2578d258
d26d267d2678d268d27d278d28d3d34d345d3456d34567d345678d34568d3457d34578d3458d346d3467d34678d3468d347
d3478d348d35d356d3567d35678d3568d357d3578d358d36d367d3678d368d37d378d38d4d45d456d4567d45678d4568d457
d4578d458d46d467d4678d468d47d478d48d5d56d567d5678d568d57d578d58d6d67d678d68d7d78d8aBRAINaBREAD
aBREAK PERMITTED HEREaBREAST-FEEDINGaBREVEaBRICKaBRIDE WITH VEILaBRIDGE AT NIGHTaBRIEFCASEaBRIEFS
aBROCCOLIaBROKEN BARbCIRCLE WITH NORTHWEST ARROWbHEARTaBROOMaBROWN HEARTaBSaBUBBLE TEAaBUBBLES
aBUCKETaBUGaBUGINESE END OF SECTIONbLETTER AcBAcCAcDAcGAcHAcJAcKAcLAcMAcMPAcNAcNGAcNGKAcNRAcNYAcNYCA
cPAcRAcSAcTAcVAcYAbPALLAWAbVOWEL SIGN AEdEdIdOdUaBUHID LETTER AcBAcDAcGAcHAcIcKAcLAcMAcNAcNGAcPAcRA
cSAcTAcUcWAcYAbVOWEL SIGN IdUaBUILDING CONSTRUCTIONaBULLETaBULLET OPERATORaBULLHORN
aBULLHORN WITH SOUND WAVESaBULLSEYEaBURRITOaBUSaBUS STOPaBUST IN SILHOUETTEaBUSTS IN SILHOUETTE
aBUTTERaBUTTERFLYaBYTE ORDER MARKaBYZANTINE MUSICAL SYMBOL AGOGI ARGIeARGOTERIeGORGIeGORGOTERIeMESI
eMETRIAePOLI ARGIfGORGIdANATRICHISMAdANTIKENOKYLISMAdANTIKENOMAdAPESO EKFONITIKONeEXO NEOdAPLI
dAPODERMA ARCHAIONeNEOdAPOSTROFOI SYNDESMOS NEOeTELOUS ICHIMATOSdAPOSTROFOSdAPOSTROFOS DIPLIeNEO
dAPOTHEMAdARGONdARGOSYNTHETONdARKTIKO DIeGAeKEeNIePAeVOUeZOdCHAMILIdCHAMILONdCHOREVMA ARCHAIONeNEO
dCHROA KLITONeSPATHIeZYGOSdDASEIAdDIARGONdDIASTOLI APLI MEGALIfMIKRIeDIPLIeTHESEOS
dDIESIS APLI DYO DODEKATAeDIGRAMMOS EX DODEKATAeMONOGRAMMOS TESSERA DODEKATAeTETARTIMORION
eTRIGRAMMOS OKTO DODEKATAeTRITIMORIONdDIFTOGGOS OUdDIGORGONdDIGORGON PARESTIGMENON ARISTERA ANOgKATO
fDEXIAdDIGRAMMA GGdDIPLIdDIPLI ARCHAIONdDYOdEKSTREPTONdELAFRONdENARXIS KAI FTHORA VOUdENDOFONON
dEPEGERMAdETERON ARGOSYNTHETONePARAKALESMAdEXO EKFONITIKONdFANEROSIS DIFONIASeMONOFONIASeTETRAFONIAS
dFHTORA SKLIRON CHROMA VASISdFTHORA ARCHAIONeARCHAION DEYTEROU ICHOUeDIATONIKI DIfKEfNANAfNI ANO
gKATOfPAfZOeENARMONIOS ANTIFONIAeI YFESIS TETARTIMORIONeMALAKON CHROMA DIFONIASgMONOFONIAS
eNAOS ICHOSeNENANOeSKLIRON CHROMA SYNAFIgVASISfDIATONON DIdGENIKI DIESISeYFESISdGORGON ARCHAION
eNEO ANOfKATOePARESTIGMENON ARISTERAfDEXIAdGORGOSYNTHETONdGORTHMIKON N APLOUNfDIPLOUNdGRONTHISMATA
dICHADINdIMIDIARGONdIMIFONONdIMIFTHORAdIMIFTHORONdISAKIA TELOUS ICHIMATOSdISON ARCHAIONeNEO
dKATAVA TROMIKONdKATAVASMAdKATHISTIdKENTIMA ARCHAIONeNEO ANOfKATOfMESOdKENTIMATAdKENTIMATA ARCHAION
eNEO ANOfKATOfMESOdKLASMAdKLASMA ANOeKATOdKONTEVMAdKONTEVMA ALLOdKORONISdKOUFISMAdKRATIMA ALLO
eARCHAIONeNEOdKRATIMATAdKRATIMOKOUFISMAdKRATIMOYPORROONdKREMASTIdKYLISMAdLEIMMA DYO CHRONON
eENOS CHRONOUeIMISEOS CHRONOUeTESSARON CHRONONeTRION CHRONONdLEMOIdLYGISMA
dMARTYRIA ALLI DEYTEROS ICHOSfPROTOS ICHOSeDEYTEROS ICHOSeLEGETOS ICHOSePLAGIOS ICHOSfTETARTOS ICHOS
ePROTOS ICHOSePROTOVARYS ICHOSeTETARTOS ICHOSfLEGETOS ICHOSeTRIFONIASeTRITOS ICHOSeVARYS ICHOS
dMIKRON ISONdNANAdOLIGON ARCHAIONeNEOdOMALONdOXEIA DIPLIeEKFONITIKONeNEOdOXEIAI ARCHAION
dOYRANISMA ARCHAIONeNEOdPARAKALESMA ARCHAIONeNEOdPARAKLITIKIdPARAKLITIKI ARCHAIONeNEOdPARICHON
dPELASTONdPELASTON NEOdPERISPOMENIdPETASMAdPETASTIdPETASTOKOUFISMAdPIASMA ARCHAIONeNEO
dPSIFISTOLYGISMAdPSIFISTONdPSIFISTON NEOdPSIFISTOPARAKALESMAdPSIFISTOSYNAGMAdPSILIdPSILONdRAPISMA
dREVMAdSAXIMATAdSEISMAdSEISMA NEOdSIMANSIS ARSEOSeARSEOS DISIMOUfTETRASIMOUfTRISIMOUeTHESEOS
eTHESEOS DISIMOUfTETRASIMOUfTRISIMOUdSTAVROSdSTAVROS APODEXIAdSTIGMAdSTRAGGISMATAdSYNAGMA ARCHAION
eMETA STAVROUeNEOdSYNEVMAdSYRMAdSYRMATIKIdTELEIAdTESSERAdTETRAPLIdTHEMAdTHEMA APLOUNdTHEMATISMOS ESO
eEXOdTHES KAI APOTHESdTHITAdTINAGMAdTRIAdTRIGORGONdTRIPLIdTROMIKOLYGISMAdTROMIKON ALLOeARCHAIONeNEO
dTROMIKOPARAKALESMAdTROMIKOPSIFISTONdTROMIKOSYNAGMAdVAREIA DIPLIeEKFONITIKONeNEOdVAREIAI ARCHAION
dVATHYdXIRON KLASMAdYFEN ANOeKATOdYFESIS APLI DYO DODEKATAeDIGRAMMOS EX DODEKATA
eMONOGRAMMOS TESSERA DODEKATAeTRIGRAMMOS OKTO DODEKATAeTRITIMORIONdYPOKRISISdYPOKRISIS DIPLIdYPORROI
dYPSILI
"

end LeastPrivilege.Text
