/-!
Names of characters that begin with one of the letters `D` to `K`.
-/

namespace LeastPrivilege.Text

/-- The names of characters that begin with one of the letters `D` to `K`, in the short form. -/
def namesDToK : String := "
aDAGGERaDAGGER KNIFEbWITH LEFT GUARDcRIGHT GUARDaDALET SYMBOLaDANCERaDANGOaDARK SHADEbSUNGLASSES
aDASH SYMBOLbWITH LEFT UPTURNaDASHED LOW LINEbOVERLINEbTRIANGLE-HEADED RIGHTWARDS ARROW
aDATA LINK ESCAPEaDC1aDC2aDC3aDC4aDCSaDEAF PERSONaDECIDUOUS TREEaDECIMAL EXPONENT SYMBOL
bSEPARATOR KEY SYMBOLaDECREASE FONT SIZE SYMBOLaDEERaDEGREE CELSIUSbFAHRENHEITbSIGNaDELaDELETE
aDELIVERY TRUCKaDELTA EQUAL TOaDENTISTRY SYMBOL LIGHT DOWN AND HORIZONTALfHORIZONTAL WITH CIRCLE
hTRIANGLEhWAVEdUP AND HORIZONTALfHORIZONTAL WITH CIRCLEhTRIANGLEhWAVEdVERTICAL AND BOTTOM LEFTgRIGHT
fTOP LEFTgRIGHTfWAVEeWITH CIRCLEfTRIANGLEaDEPARTMENT STOREaDERELICT HOUSE BUILDINGaDESCENDING NODE
aDESERET CAPITAL LETTER AYdBEEdCHEEdDEEdEFdELdEMdENdENGdERdESdESHdETHdEWdGAYdHdJEEdKAYdLONG AeAHeEeI
eOeOOdOIdOWdPEEdSHORT AeAHeEeIeOeOOdTEEdTHEEdVEEdWUdYEEdZEEdZHEEbSMALL LETTER AYdBEEdCHEEdDEEdEFdEL
dEMdENdENGdERdESdESHdETHdEWdGAYdHdJEEdKAYdLONG AeAHeEeIeOeOOdOIdOWdPEEdSHORT AeAHeEeIeOeOOdTEEdTHEE
dVEEdWUdYEEdZEEdZHEEaDESERTaDESERT ISLANDaDESKTOP COMPUTERbWINDOWaDEVANAGARI ABBREVIATION SIGN
bACUTE ACCENTbCARETbDANDAbDIGIT EIGHTcFIVEcFOURcNINEcONEcSEVENcSIXcTHREEcTWOcZERObDOUBLE DANDA
bGAP FILLERbGRAVE ACCENTbHEADSTROKEbJAIN OMbLETTER AcAAcAIcAUcAWcAYcBAcBBAcBHAcCAcCANDRA AdEdOcCHA
cDAcDDAcDDDAcDDDHAcDDHAcDHAcEcFAcGAcGGAcGHAcGHHAcGLOTTAL STOPcHAcHEAVY YAcIcIIcJAcJHAcJJAcKAcKHA
cKHHAcLAcLLAcLLLAcMAcMARWARI DDAcNAcNGAcNNAcNNNAcNYAcOcOEcOOEcPAcPHAcQAcRAcRHAcRRAcSAcSHAcSHORT AdE
dOcSSAcTAcTHAcTTAcTTHAcUcUEcUUcUUEcVAcVOCALIC LdLLdRdRRcYAcYYAcZAcZHAbOMbSIGN ANUSVARAcAVAGRAHA
cCANDRABINDUcCANDRABINDU AVAGRAHAdTHREEdTWOdVIRAMAcDOUBLE CANDRABINDU VIRAMAcHIGH SPACING DOT
cINVERTED CANDRABINDUcNUKTAcPUSHPIKAcSIDDHAMcSPACING CANDRABINDUcVIRAMAcVISARGAbSTRESS SIGN ANUDATTA
dUDATTAbVOWEL SIGN AAdAIdAUdAWdAYdCANDRA EeLONG EeOdEdIdIIdOdOEdOOEdPRISHTHAMATRA EdSHORT EeOdUdUE
dUUdUUEdVOCALIC LeLLeReRRaDEVICE CONTROL FOURcONEcSTRINGcTHREEcTWOaDIAERESISaDIAMETER SIGN
aDIAMOND OPERATORbSHAPE WITH A DOT INSIDEbTARGETbWITH BOTTOM HALF BLACKcLEFT HALF BLACK
cRIGHT HALF BLACKcTOP HALF BLACKaDIE FACE-1c2c3c4c5c6aDIESEL LOCOMOTIVEaDIFFERENCE BETWEEN
aDIGIT EIGHTbEIGHT COMMAcFULL STOPbFIVEbFIVE COMMAcFULL STOPbFOURbFOUR COMMAcFULL STOPbNINE
bNINE COMMAcFULL STOPbONEbONE COMMAcFULL STOPbSEVENbSEVEN COMMAcFULL STOPbSIXbSIX COMMAcFULL STOP
bTHREEbTHREE COMMAcFULL STOPbTWObTWO COMMAcFULL STOPbZERObZERO COMMAcFULL STOPaDIGRAM FOR EARTH
cEARTHLY HEAVENdHUMANcGREATER YANGdYINcHEAVENLY EARTHcHUMAN EARTHcLESSER YANGdYINaDIMENSION ORIGIN
aDINGBAT CIRCLED SANS-SERIF DIGIT EIGHTfFIVEfFOURfNINEfONEfSEVENfSIXfTHREEfTWOfZEROeNUMBER TEN
bNEGATIVE CIRCLED DIGIT EIGHTeFIVEeFOUReNINEeONEeSEVENeSIXeTHREEeTWOdNUMBER TEN
dSANS-SERIF DIGIT EIGHTgFIVEgFOURgNINEgONEgSEVENgSIXgTHREEgTWOgZEROfNUMBER TEN
aDIRECT CURRENT SYMBOL FORM TWObHITaDISABLED CARaDISAPPOINTED BUT RELIEVED FACEbFACE
aDISCONTINUOUS UNDERLINE SYMBOLaDISGUISED FACEaDITTO MARKaDIVES AKURU DIGIT EIGHTdFIVEdFOURdNINEdONE
dSEVENdSIXdTHREEdTWOdZEROcDOUBLE DANDAcEND OF TEXT MARKcGAP FILLERcINITIAL RAcLETTER AdAAdBAdBHAdCA
dCHAdDAdDDAdDDHAdDHAdEdGAdGHAdHAdIdIIdJAdKAdKHAdLAdLLAdMAdNAdNGAdNNAdNYAdOdPAdPHAdRAdSAdSHAdSSAdTA
dTHAdTTAdUdUUdVAdYAdYYAdZAcMEDIAL RAdYAcPREFIXED NASAL SIGNcSIGN ANUSVARAdCANDRABINDUdHALANTAdNUKTA
cVIRAMAcVOWEL SIGN AAeAIeEeIeIIeOeUeUUaDIVIDESaDIVING MASKaDIVISION SIGNbSLASHbTIMESaDIVORCE SYMBOL
aDIYA LAMPaDIZZY FACEbSYMBOLaDLEaDNA DOUBLE HELIXaDO NOT LITTER SYMBOLaDOCUMENT
aDOCUMENT WITH PICTUREcTEXTcTEXT AND PICTUREaDODOaDOES NOT CONTAIN AS MEMBEReNORMAL SUBGROUP
fSUBGROUP OR EQUALcDIVIDEcDIVIDE WITH REVERSED NEGATION SLASHcFORCEcPRECEDEcPRECEDE OR EQUALcPROVE
cSUCCEEDcSUCCEED OR EQUALaDOGaDOG FACEaDOGRA ABBREVIATION SIGNbLETTER AcAAcAIcAUcBAcBHAcCAcCHAcDA
cDDAcDDHAcDHAcEcGAcGHAcHAcIcIIcJAcJHAcKAcKHAcLAcMAcNAcNGAcNNAcNYAcOcPAcPHAcRAcRRAcSAcSHAcSSAcTAcTHA
cTTAcTTHAcUcUUcVAcYAbSIGN ANUSVARAcNUKTAcVIRAMAcVISARGAbVOWEL SIGN AAdAIdAUdEdIdIIdOdUdUUdVOCALIC R
eRRaDOLLAR SIGNaDOLPHINaDOMINO TILE HORIZONTAL BACKcHORIZONTAL-00-00e01e02e03e04e05e06d01-00e01e02
e03e04e05e06d02-00e01e02e03e04e05e06d03-00e01e02e03e04e05e06d04-00e01e02e03e04e05e06d05-00e01e02e03
e04e05e06d06-00e01e02e03e04e05e06cVERTICAL BACKcVERTICAL-00-00e01e02e03e04e05e06d01-00e01e02e03e04
e05e06d02-00e01e02e03e04e05e06d03-00e01e02e03e04e05e06d04-00e01e02e03e04e05e06d05-00e01e02e03e04e05
e06d06-00e01e02e03e04e05e06aDONG SIGNaDOORaDOT ABOVEbMINUSbOPERATORbPLUSaDOTTED CIRCLEbCROSSbFENCE
bLINE FACEbOBELOSbRIGHT-POINTING ANGLEbSOLIDUSbSQUAREbTRANSPOSITION MARKERaDOUBLE ACUTE ACCENT
bCIRCLED DIGIT EIGHTdFIVEdFOURdNINEdONEdSEVENdSIXdTHREEdTWOcNUMBER TENbCOLON EQUALbCURLY LOOPbDAGGER
bDOWN TACKbEXCLAMATION MARKbHIGH-REVERSED-9 QUOTATION MARKbHYPHENbINTEGRALbINTERSECTION
bLEFT ARC GREATER-THAN BRACKETbLOGICAL ANDcORbLOW LINEbLOW-9 QUOTATION MARK
cREVERSED-9 QUOTATION MARKbNESTED GREATER-THANcLESS-THANdTHAN WITH UNDERBARbOBLIQUE HYPHENbPLUS
bPRECEDESbPRIMEbPRIME QUOTATION MARKbQUESTION MARKbRIGHT ARC LESS-THAN BRACKETbSOLIDUS OPERATOR
bSQUARE INTERSECTIONcUNIONbSTACKED COMMAbSTROKE NOT SIGNbSUBSETbSUCCEEDSbSUPERSETbSUSPENSION MARK
bUNIONbUP TACKbVERTICAL BARcBAR DOUBLE LEFT TURNSTILEeRIGHT TURNSTILEdLEFT TURNSTILEcLINE
bWAVY OVERLINEaDOUBLE-ENDED MULTIMAPbLINE EQUAL TO OR GREATER-THANfLESS-THAN
cSLANTED EQUAL TO OR GREATER-THANgLESS-THANdGREATER-THAN OR EQUAL TOdLESS-THAN OR EQUAL TO
bSTRUCK CAPITAL CdGAMMAdHdNdPdPIdQdRdZcITALIC CAPITAL DdSMALL DeEeIeJcN-ARY SUMMATIONcSMALL GAMMAdPI
aDOUBLED FEMALE SIGNbMALE SIGNbSYMBOLaDOUGHNUTaDOVE OF PEACEaDOWN ARROWHEADbFISH TAIL
bRIGHT DIAGONAL ELLIPSISbTACKbTACK WITH CIRCLE BELOWaDOWN-POINTING RED TRIANGLEcSMALL RED TRIANGLE
cTRIANGLE WITH LEFT HALF BLACKeRIGHT HALF BLACKaDOWNWARD FACING HOOKcHOOK WITH DOTcNOTCHED HOOK
dHOOK WITH DOTaDOWNWARDS ANCORAbARROWbARROW AND RIGHT ONE EIGHTH BLOCKcFROM BAR
cLEFTWARDS OF UPWARDS ARROWcTO BARcWITH CORNER LEFTWARDSdDOUBLE STROKEdEQUILATERAL ARROWHEAD
dHORIZONTAL STROKEdLARGE TRIANGLE ARROWHEADdMEDIUM TRIANGLE ARROWHEADdNOTCHED TAIL
dSMALL EQUILATERAL ARROWHEADeTRIANGLE ARROWHEADdTIP LEFTWARDSeRIGHTWARDSbBLACK ARROW
cCIRCLED WHITE ARROWbCOMPRESSED ARROWbDASHED ARROWbDOUBLE ARROWbFINGER-POST ARROW
bHARPOON WITH BARB LEFT BESIDE DOWNWARDS HARPOON WITH BARB RIGHTgUPWARDS HARPOON WITH BARB RIGHT
fFROM BARfTO BAReLEFTWARDSeRIGHT FROM BARfTO BAReRIGHTWARDSbHEAVY ARROWcCOMPRESSED ARROW
bPAIRED ARROWSbQUADRUPLE ARROWbROCKETbSANS-SERIF ARROWbSQUARED ARROWbTRIANGLE ARROWHEAD
bTRIANGLE-HEADED ARROWdARROW LEFTWARDS OF UPWARDS TRIANGLE-HEADED ARROWeTO BAReWITH BOLD SHAFT
fDOUBLE HORIZONTAL STROKEfHEAVY SHAFTfLONG TIP LEFTWARDShRIGHTWARDSfMEDIUM SHAFTfNARROW SHAFT
fVERY HEAVY SHAFTdDASHED ARROWdPAIRED ARROWSdZIGZAG ARROWbTRIPLE ARROWbTWO HEADED ARROW
bTWO-HEADED ARROW WITH TRIANGLE ARROWHEADSbWHITE ARROWcARROW WITHIN TRIANGLE ARROWHEADbZIGZAG ARROW
aDRACHMA SIGNaDRAFTING POINT RIGHTWARDS ARROWaDRAGONaDRAGON FACEaDRESSaDRIVE SLOW SIGN
aDROMEDARY CAMELaDROOLING FACEaDROP OF BLOODaDROPLETaDRUM WITH DRUMSTICKSaDUCKaDUMPLING
aDUPLOYAN AFFIX ATTACHED E HOOKdI HOOKdLEFT-TO-RIGHT SECANTdSECANTdTAILdTANGENTdTANGENT HOOK
cHIGH ACUTEdCIRCLEdDOTdGRAVEdLINEdLONG GRAVEdTIGHT ACUTEdVERTICALdVERTICAL SECANTdWAVE
cLEFT HORIZONTAL SECANTcLOW ACUTEdARROWdCIRCLEdDOTdGRAVEdLINEdLONG GRAVEdTIGHT ACUTEdVERTICAL
dVERTICAL SECANTdWAVEcMID HORIZONTAL SECANTdVERTICAL SECANTcRIGHT HORIZONTAL SECANTbDOUBLE MARK
bLETTER AcAOUcBcDcD ScDHcEcEEcEUcFcF NcGcG R ScHcHLcIcIEcJcJ MdM SdNdN SdSdS WITH DOTdWITH DOT
eDOTS INSIDE AND ABOVEcKcK MdR ScKKcLcLHcLONG IdUcMcM NdN SdSdWITH DOTcNcN MdM SdSdWITH DOTcNASAL A
dIdOdUcOcOAcOOHcOUcOWcPcP NcPERNIN AMdANcRcR ScRHcROMANIAN IdUcScS JdJ SdKdK RdMdNdPdP RdSdTdT R
dWITH DOTeDOT BELOWcSHORT IcSLOAN ANdDHdEEdEHdENdJdONdOWdUcTcT R SdScTHcUcU NcUHcUIcVcVOCALIC McW
cW RcWAcWEIcWHcWIcWOcWOWcXcXWcYEbPUNCTUATION CHINOOK FULL STOPbSIGN O WITH CROSS
bTHICK LETTER SELECTORaDVDaE-MAIL SYMBOLaEAGLEaEARaEAR OF MAIZEcRICEbWITH HEARING AIDaEARTH
aEARTH GLOBE AMERICAScASIA-AUSTRALIAcEUROPE-AFRICAbGROUNDaEAST SYRIAC CROSSaEDITORIAL CORONISaEGG
aEGYPTIAN HIEROGLYPH A001cA002cA003cA004cA005cA005AcA006cA006AcA006BcA007cA008cA009cA010cA011cA012
cA013cA014cA014AcA015cA016cA017cA017AcA018cA019cA020cA021cA022cA023cA024cA025cA026cA027cA028cA029
cA030cA031cA032cA032AcA033cA034cA035cA036cA037cA038cA039cA040cA040AcA041cA042cA042AcA043cA043AcA044
cA045cA045AcA046cA047cA048cA049cA050cA051cA052cA053cA054cA055cA056cA057cA058cA059cA060cA061cA062
cA063cA064cA065cA066cA067cA068cA069cA070cAA001cAA002cAA003cAA004cAA005cAA006cAA007cAA007AcAA007B
cAA008cAA009cAA010cAA011cAA012cAA013cAA014cAA015cAA016cAA017cAA018cAA019cAA020cAA021cAA022cAA023
cAA024cAA025cAA026cAA027cAA028cAA029cAA030cAA031cAA032cB001cB002cB003cB004cB005cB005AcB006cB007cB008
cB009cBEGIN SEGMENTcC001cC002cC002AcC002BcC002CcC003cC004cC005cC006cC007cC008cC009cC010cC010AcC011
cC012cC013cC014cC015cC016cC017cC018cC019cC020cC021cC022cC023cC024cD001cD002cD003cD004cD005cD006cD007
cD008cD008AcD009cD010cD011cD012cD013cD014cD015cD016cD017cD018cD019cD020cD021cD022cD023cD024cD025
cD026cD027cD027AcD028cD029cD030cD031cD031AcD032cD033cD034cD034AcD035cD036cD037cD038cD039cD040cD041
cD042cD043cD044cD045cD046cD046AcD047cD048cD048AcD049cD050cD050AcD050BcD050CcD050DcD050EcD050FcD050G
cD050HcD050IcD051cD052cD052AcD053cD054cD054AcD055cD056cD057cD058cD059cD060cD061cD062cD063cD064cD065
cD066cD067cD067AcD067BcD067CcD067DcD067EcD067FcD067GcD067HcE001cE002cE003cE004cE005cE006cE007cE008
cE008AcE009cE009AcE010cE011cE012cE013cE014cE015cE016cE016AcE017cE017AcE018cE019cE020cE020AcE021cE022
cE023cE024cE025cE026cE027cE028cE028AcE029cE030cE031cE032cE033cE034cE034AcE036cE037cE038cEND SEGMENT
cF001cF001AcF002cF003cF004cF005cF006cF007cF008cF009cF010cF011cF012cF013cF013AcF014cF015cF016cF017
cF018cF019cF020cF021cF021AcF022cF023cF024cF025cF026cF027cF028cF029cF030cF031cF031AcF032cF033cF034
cF035cF036cF037cF037AcF038cF038AcF039cF040cF041cF042cF043cF044cF045cF045AcF046cF046AcF047cF047AcF048
cF049cF050cF051cF051AcF051BcF051CcF052cF053cG001cG002cG003cG004cG005cG006cG006AcG007cG007AcG007B
cG008cG009cG010cG011cG011AcG012cG013cG014cG015cG016cG017cG018cG019cG020cG020AcG021cG022cG023cG024
cG025cG026cG026AcG027cG028cG029cG030cG031cG032cG033cG034cG035cG036cG036AcG037cG037AcG038cG039cG040
cG041cG042cG043cG043AcG044cG045cG045AcG046cG047cG048cG049cG050cG051cG052cG053cG054cH001cH002cH003
cH004cH005cH006cH006AcH007cH008cHORIZONTAL JOINERcI001cI002cI003cI004cI005cI005AcI006cI007cI008cI009
cI009AcI010cI010AcI011cI011AcI012cI013cI014cI015cINSERT AT BOTTOM ENDfSTARTeTOP ENDfSTARTcK001cK002
cK003cK004cK005cK006cK007cK008cL001cL002cL002AcL003cL004cL005cL006cL006AcL007cL008cM001cM001AcM001B
cM002cM003cM003AcM004cM005cM006cM007cM008cM009cM010cM010AcM011cM012cM012AcM012BcM012CcM012DcM012E
cM012FcM012GcM012HcM013cM014cM015cM015AcM016cM016AcM017cM017AcM018cM019cM020cM021cM022cM022AcM023
cM024cM024AcM025cM026cM027cM028cM028AcM029cM030cM031cM031AcM032cM033cM033AcM033BcM034cM035cM036cM037
cM038cM039cM040cM040AcM041cM042cM043cM044cN001cN002cN003cN004cN005cN006cN007cN008cN009cN010cN011
cN012cN013cN014cN015cN016cN017cN018cN018AcN018BcN019cN020cN021cN022cN023cN024cN025cN025AcN026cN027
cN028cN029cN030cN031cN032cN033cN033AcN034cN034AcN035cN035AcN036cN037cN037AcN038cN039cN040cN041cN042
cNL001cNL002cNL003cNL004cNL005cNL005AcNL006cNL007cNL008cNL009cNL010cNL011cNL012cNL013cNL014cNL015
cNL016cNL017cNL017AcNL018cNL019cNL020cNU001cNU002cNU003cNU004cNU005cNU006cNU007cNU008cNU009cNU010
cNU010AcNU011cNU011AcNU012cNU013cNU014cNU015cNU016cNU017cNU018cNU018AcNU019cNU020cNU021cNU022cNU022A
cO001cO001AcO002cO003cO004cO005cO005AcO006cO006AcO006BcO006CcO006DcO006EcO006FcO007cO008cO009cO010
cO010AcO010BcO010CcO011cO012cO013cO014cO015cO016cO017cO018cO019cO019AcO020cO020AcO021cO022cO023cO024
cO024AcO025cO025AcO026cO027cO028cO029cO029AcO030cO030AcO031cO032cO033cO033AcO034cO035cO036cO036A
cO036BcO036CcO036DcO037cO038cO039cO040cO041cO042cO043cO044cO045cO046cO047cO048cO049cO050cO050AcO050B
cO051cOVERLAY MIDDLEcP001cP001AcP002cP003cP003AcP004cP005cP006cP007cP008cP009cP010cP011cQ001cQ002
cQ003cQ004cQ005cQ006cQ007cR001cR002cR002AcR003cR003AcR003BcR004cR005cR006cR007cR008cR009cR010cR010A
cR011cR012cR013cR014cR015cR016cR016AcR017cR018cR019cR020cR021cR022cR023cR024cR025cR026cR027cR028
cR029cS001cS002cS002AcS003cS004cS005cS006cS006AcS007cS008cS009cS010cS011cS012cS013cS014cS014AcS014B
cS015cS016cS017cS017AcS018cS019cS020cS021cS022cS023cS024cS025cS026cS026AcS026BcS027cS028cS029cS030
cS031cS032cS033cS034cS035cS035AcS036cS037cS038cS039cS040cS041cS042cS043cS044cS045cS046cT001cT002
cT003cT003AcT004cT005cT006cT007cT007AcT008cT008AcT009cT009AcT010cT011cT011AcT012cT013cT014cT015cT016
cT016AcT017cT018cT019cT020cT021cT022cT023cT024cT025cT026cT027cT028cT029cT030cT031cT032cT032AcT033
cT033AcT034cT035cT036cU001cU002cU003cU004cU005cU006cU006AcU006BcU007cU008cU009cU010cU011cU012cU013
cU014cU015cU016cU017cU018cU019cU020cU021cU022cU023cU023AcU024cU025cU026cU027cU028cU029cU029AcU030
cU031cU032cU032AcU033cU034cU035cU036cU037cU038cU039cU040cU041cU042cV001cV001AcV001BcV001CcV001D
cV001EcV001FcV001GcV001HcV001IcV002cV002AcV003cV004cV005cV006cV007cV007AcV007BcV008cV009cV010cV011
cV011AcV011BcV011CcV012cV012AcV012BcV013cV014cV015cV016cV017cV018cV019cV020cV020AcV020BcV020CcV020D
cV020EcV020FcV020GcV020HcV020IcV020JcV020KcV020LcV021cV022cV023cV023AcV024cV025cV026cV027cV028cV028A
cV029cV029AcV030cV030AcV031cV031AcV032cV033cV033AcV034cV035cV036cV037cV037AcV038cV039cV040cV040A
cVERTICAL JOINERcW001cW002cW003cW003AcW004cW005cW006cW007cW008cW009cW009AcW010cW010AcW011cW012cW013
cW014cW014AcW015cW016cW017cW017AcW018cW018AcW019cW020cW021cW022cW023cW024cW024AcW025cX001cX002cX003
cX004cX004AcX004BcX005cX006cX006AcX007cX008cX008AcY001cY001AcY002cY003cY004cY005cY006cY007cY008cZ001
cZ002cZ002AcZ002BcZ002CcZ002DcZ003cZ003AcZ003BcZ004cZ004AcZ005cZ005AcZ006cZ007cZ008cZ009cZ010cZ011
cZ012cZ013cZ014cZ015cZ015AcZ015BcZ015CcZ015DcZ015EcZ015FcZ015GcZ015HcZ015IcZ016cZ016AcZ016BcZ016C
cZ016DcZ016EcZ016FcZ016GcZ016HaEIGHT PETALLED OUTLINED BLACK FLORETTEbPOINTED BLACK STAR
cPINWHEEL STARcRECTILINEAR BLACK STARbSPOKED ASTERISKbTEARDROP-SPOKED PROPELLER ASTERISKaEIGHTH NOTE
aEJECT SYMBOLaELBASAN LETTER AcBEcCEcCHEcDEcDHEcEcEIcFEcGEcGHAMMAcGHEcGJEcHEcIcJEcKEcKHEcLEcLLEcME
cNAcNDEcNEcNJEcOcPEcQEcREcRREcSEcSHEcTEcTHEcUcVEcXEcYcZEcZHEaELECTRIC ARROWbLIGHT BULBbPLUGbTORCH
aELECTRICAL INTERSECTIONaELEMENT OFbOF OPENING DOWNWARDSdUPWARDScWITH DOT ABOVE
dLONG HORIZONTAL STROKEdOVERBARdTWO HORIZONTAL STROKESdUNDERBAR
dVERTICAL BAR AT END OF HORIZONTAL STROKEaELEPHANTaELEVATORaELFaELYMAIC LETTER ALEPHcAYINcBETH
cDALETHcGIMELcHEcHETHcKAPHcLAMEDHcMEMcNUNcPEcQOPHcRESHcSADHEcSAMEKHcSHINcTAWcTETHcWAWcYODHcZAYIN
bLIGATURE ZAYIN-YODHaEM DASHbQUADbSPACEaEMOJI COMPONENT BALDcCURLY HAIRcRED HAIRcWHITE HAIR
bMODIFIER FITZPATRICK TYPE-1-2e3e4e5e6aEMPHASIS SYMBOLaEMPTY DOCUMENTbNESTbNOTEbNOTE PADcPAGEbPAGE
bPAGESbSETbSET WITH LEFT ARROW ABOVEdOVERBARdRIGHT ARROW ABOVEdSMALL CIRCLE ABOVEaEN DASHbQUADbSPACE
aEND OF GUARDED AREAcLINEcMEDIUMcPROOFcPROTECTED AREAcSELECTED AREAcTEXTcTRANSMISSION
cTRANSMISSION BLOCKbWITH LEFTWARDS ARROW ABOVEaENQaENQUIRYaENTER SYMBOLaENVELOPE
aENVELOPE WITH DOWNWARDS ARROW ABOVEcLIGHTNINGaEOLaEOMaEOTaEPAaEQUAL AND PARALLEL TO
bTO BY DEFINITIONcOR GREATER-THANdLESS-THANdPRECEDESdSUCCEEDSaEQUALS COLONbSIGN
bSIGN ABOVE LEFTWARDS ARROWdPLUS SIGNdRIGHTWARDS ARROWdTILDE OPERATORcAND SLANTED PARALLEL
ePARALLEL WITH TILDE ABOVEcWITH BUMPY ABOVEdDOT BELOWdINFINITY BELOW
dTWO DOTS ABOVE AND TWO DOTS BELOWbWITH ASTERISKaEQUIANGULAR TOaEQUIVALENT TObWITH FOUR DOTS ABOVE
aERASE TO THE LEFTdRIGHTaERIS FORM ONEcTWOaERROR-BARRED BLACK CIRCLEdDIAMONDdSQUAREcWHITE CIRCLE
dDIAMONDdSQUAREaESAaESCaESCAPEaESTIMATED SYMBOLaESTIMATESaETBaETHIOPIC COLON
bCOMBINING GEMINATION AND VOWEL LENGTH MARKdMARKcVOWEL LENGTH MARKbCOMMAbDIGIT EIGHTcFIVEcFOURcNINE
cONEcSEVENcSIXcTHREEcTWObFULL STOPbNUMBER EIGHTYcFIFTYcFORTYcHUNDREDcNINETYcSEVENTYcSIXTYcTEN
cTEN THOUSANDcTHIRTYcTWENTYbPARAGRAPH SEPARATORbPREFACE COLONbQUESTION MARKbSECTION MARKbSEMICOLON
bSYLLABLE BAcBAAcBBAcBBAAcBBEcBBEEcBBIcBBOcBBUcBEcBEEcBIcBOcBOAcBUcBWAcBWEcBWEEcBWIcCAcCAAcCCAcCCAA
cCCEcCCEEcCCHAcCCHAAcCCHEcCCHEEcCCHHAcCCHHAAcCCHHEcCCHHEEcCCHHIcCCHHOcCCHHUcCCHIcCCHOcCCHUcCCIcCCO
cCCUcCEcCEEcCHAcCHAAcCHEcCHEEcCHIcCHOcCHOAcCHUcCHWAcCIcCOcCOAcCUcCWAcDAcDAAcDDAcDDAAcDDEcDDEEcDDHAA
cDDHEcDDHEEcDDHIcDDHOcDDHUcDDIcDDOcDDOAcDDUcDDWAcDEcDEEcDIcDOcDOAcDUcDWAcDZAAcDZEcDZEEcDZIcDZOcDZU
cFAcFAAcFEcFEEcFIcFOcFUcFWAcFWEcFWEEcFWIcFYAcGAcGAAcGEcGEEcGGAcGGAAcGGEcGGEEcGGIcGGOcGGUcGGWAcGGWAA
cGGWEcGGWEEcGGWIcGIcGLOTTAL AdAAdEdEEdIdOdOAdUdWAcGOcGOAcGUcGURAGE BWEEdBWIdFWEEdFWIdGWEdGWEEdGWI
dHHWAdKWEdKWEEdKWIdMWEEdMWIdPWEEdPWIdQWEdQWEEdQWIcGWAcGWAAcGWEcGWEEcGWIcGYAcGYAAcGYEcGYEEcGYIcGYO
cGYUcHAcHAAcHEcHEEcHHAcHHAAcHHEcHHEEcHHIcHHOcHHUcHHWAcHHWEcHHWEEcHHWIcHHYAcHHYAAcHHYEcHHYEEcHHYI
cHHYOcHHYUcHIcHOcHOAcHUcJAcJAAcJEcJEEcJIcJOcJOAcJUcJWAcKAcKAAcKEcKEEcKIcKOcKOAcKUcKWAcKWAAcKWEcKWEE
cKWIcKXAcKXAAcKXEcKXEEcKXIcKXOcKXUcKXWAcKXWAAcKXWEcKXWEEcKXWIcKYAcKYAAcKYEcKYEEcKYIcKYOcKYUcLAcLAA
cLEcLEEcLIcLOcLOAcLUcLWAcMAcMAAcMEcMEEcMIcMOcMOAcMUcMWAcMWEcMWEEcMWIcMYAcNAcNAAcNEcNEEcNIcNOcNOAcNU
cNWAcNYAcNYAAcNYEcNYEEcNYIcNYOcNYOAcNYUcNYWAcPAcPAAcPEcPEEcPHAcPHAAcPHARYNGEAL AdAAdEdEEdIdOdUcPHE
cPHEEcPHIcPHOcPHOAcPHUcPHWAcPIcPOcPOAcPUcPWAcPWEcPWEEcPWIcQAcQAAcQEcQEEcQHAcQHAAcQHEcQHEEcQHIcQHO
cQHUcQHWAcQHWAAcQHWEcQHWEEcQHWIcQIcQOcQOAcQUcQWAcQWAAcQWEcQWEEcQWIcQYAcQYAAcQYEcQYEEcQYIcQYOcQYUcRA
cRAAcREcREEcRIcROcROAcRUcRWAcRYAcSAcSAAcSEcSEBATBEIT BWAdFWAdMWAdPWAcSEEcSHAcSHAAcSHEcSHEEcSHIcSHO
cSHOAcSHUcSHWAcSIcSOcSOAcSSAcSSAAcSSEcSSEEcSSIcSSOcSSUcSUcSWAcSZAcSZAAcSZEcSZEEcSZIcSZOcSZUcSZWAcTA
cTAAcTEcTEEcTHAcTHAAcTHEcTHEEcTHIcTHOcTHOAcTHUcTHWAcTIcTOcTOAcTSAcTSAAcTSEcTSEEcTSIcTSOcTSUcTSWA
cTTHAAcTTHEcTTHEEcTTHIcTTHOcTTHUcTUcTWAcTZAcTZAAcTZEcTZEEcTZIcTZOcTZOAcTZUcVAcVAAcVEcVEEcVIcVOcVU
cVWAcWAcWAAcWEcWEEcWIcWOcWOAcWUcXAcXAAcXEcXEEcXIcXOcXOAcXUcXWAcXWAAcXWEcXWEEcXWIcXYAcXYAAcXYEcXYEE
cXYIcXYOcXYUcYAcYAAcYEcYEEcYIcYOcYOAcYUcZAcZAAcZEcZEEcZHAcZHAAcZHEcZHEEcZHIcZHOcZHUcZHWAcZIcZOcZOA
cZUcZWAcZZAcZZAAcZZEcZZEEcZZIcZZOcZZUbTONAL MARK CHIRETdDERETdDERET-HIDETdDIFATdHIDETdKENATdKURT
dRIKRIKdSHORT RIKRIKdYIZETbWORDSPACEaETXaEULER CONSTANTaEURO SIGNaEURO-CURRENCY SIGNaEUROPEAN CASTLE
bPOST OFFICEaEVERGREEN TREEaEXCESSaEXCLAMATION MARKbQUESTION MARKaEXPRESSIONLESS FACE
aEXTENDED ARABIC-INDIC DIGIT EIGHTeFIVEeFOUReNINEeONEeSEVENeSIXeTHREEeTWOeZERO
aEXTRATERRESTRIAL ALIENaEXTREMELY HEAVY FIVE SPOKED ASTERISKcGREEK CROSScSALTIREcSIX SPOKED ASTERISK
cWHITE CIRCLEdSQUAREaEYEaEYEGLASSESaEYESaFACE HOLDING BACK TEARSbMASSAGEbPALM
bSAVOURING DELICIOUS FOODbSCREAMING IN FEARbTHROWING A KISSbWITH COLD SWEATcCOWBOY HAT
cDIAGONAL MOUTHcFINGER COVERING CLOSED LIPScHEAD-BANDAGEcLOOK OF TRIUMPHcMEDICAL MASKcMONOCLE
cNO GOOD GESTUREcOK GESTUREcONE EYEBROW RAISEDcOPEN EYES AND HAND OVER MOUTHdMOUTH
dMOUTH AND COLD SWEATeVOMITINGcPARTY HORN AND PARTY HATcPEEKING EYEcPLEADING EYEScROLLING EYES
cSTUCK-OUT TONGUEeTONGUE AND TIGHTLY-CLOSED EYESgWINKING EYEcTEARS OF JOYcTHERMOMETER
cUNEVEN EYES AND WAVY MOUTHbWITHOUT MOUTHaFACSIMILE SIGNaFACTORYaFAIRYaFALAFELaFALLEN LEAF
aFALLING DIAGONAL CROSSING NORTH EAST ARROWdRISING DIAGONALcIN WHITE CIRCLE IN BLACK SQUAREaFAMILY
aFARSI SYMBOLaFATHER CHRISTMASaFAX ICONbMACHINEaFEARFUL FACEaFEATHERaFEMALE SIGN
aFEMININE ORDINAL INDICATORaFENCERaFERRIS WHEELaFERRYaFFaFIELD HOCKEY STICK AND BALLaFIGURE DASH
bSPACEaFILE CABINETbFOLDERbSEPARATORaFILM FRAMESbPROJECTORaFINITE PART INTEGRALaFIREaFIRE ENGINE
bEXTINGUISHERaFIRECRACKERaFIREWORK SPARKLERaFIREWORKSaFIRST PLACE MEDALbQUARTER MOONcMOON SYMBOL
dWITH FACEbSTRONG ISOLATEaFISHaFISH CAKE WITH SWIRL DESIGNaFISHEYEaFISHING POLE AND FISH
aFISTED HAND SIGNaFIVE DOT MARKcPUNCTUATIONaFLAG IN HOLEaFLAMINGOaFLAT SHOEaFLATBREADaFLATNESS
aFLEUR-DE-LISaFLEXED BICEPSaFLOPPY DISKaFLORAL HEARTaFLOWERaFLOWER PLAYING CARDSbPUNCTUATION MARK
aFLUSHED FACEaFLYaFLYING DISCbENVELOPEbSAUCERaFOGaFOGGYaFOLDERaFONDUEaFOOTaFOOTPRINTSaFOR ALLaFORCES
aFORK AND KNIFEcKNIFE WITH PLATEaFORKED PARAGRAPHOSaFORKINGaFORM FEEDaFORTUNE COOKIEaFOUNTAIN
aFOUR BALLOON-SPOKED ASTERISKbCLUB-SPOKED ASTERISKbCORNER ARROWS CIRCLING ANTICLOCKWISEbDOT MARK
cPUNCTUATIONbLEAF CLOVERbPOINTED BLACK STARbTEARDROP-SPOKED ASTERISKaFOUR-PER-EM SPACEaFOURTH ROOT
aFOX FACEaFRACTION NUMERATOR ONEbSLASHaFRAME WITH AN XcPICTUREcTILESaFREEZING FACEaFRENCH FRANC SIGN
bFRIESaFRIED SHRIMPaFROG FACEaFRONT-FACING BABY CHICKbTILTED SHADOWED WHITE RIGHTWARDS ARROWaFROWN
aFROWNING FACE WITH OPEN MOUTHaFSaFSIaFUEL PUMPaFULL BLOCKbMOON SYMBOLcWITH FACEbOUTER JOINbSTOP
aFULLWIDTH AMPERSANDbAPOSTROPHEbASTERISKbBROKEN BARbCENT SIGNbCIRCUMFLEX ACCENTbCOLONbCOMMA
bCOMMERCIAL ATbDIGIT EIGHTcFIVEcFOURcNINEcONEcSEVENcSIXcTHREEcTWOcZERObDOLLAR SIGNbEQUALS SIGN
bEXCLAMATION MARKbFULL STOPbGRAVE ACCENTbGREATER-THAN SIGNbHYPHEN-MINUSbLATIN CAPITAL LETTER AeBeCeD
eEeFeGeHeIeJeKeLeMeNeOePeQeReSeTeUeVeWeXeYeZcSMALL LETTER AeBeCeDeEeFeGeHeIeJeKeLeMeNeOePeQeReSeTeU
eVeWeXeYeZbLEFT CURLY BRACKETcPARENTHESIScSQUARE BRACKETcWHITE PARENTHESISbLESS-THAN SIGNbLOW LINE
bMACRONbNOT SIGNbNUMBER SIGNbPERCENT SIGNbPLUS SIGNbPOUND SIGNbQUESTION MARKbQUOTATION MARK
bREVERSE SOLIDUSbRIGHT CURLY BRACKETcPARENTHESIScSQUARE BRACKETcWHITE PARENTHESISbSEMICOLONbSOLIDUS
bTILDEbVERTICAL LINEbWON SIGNbYEN SIGNaFUNCTION APPLICATIONaFUNERAL URNaFUSEaFVS1aFVS2aFVS3aFVS4
aGAME DIEaGARLICaGEARaGEAR WITH HANDLESbWITHOUT HUBaGEM STONEaGEMINIaGENIEaGEOMETRIC PROPORTION
aGEOMETRICALLY EQUAL TObEQUIVALENT TOaGEORGIAN CAPITAL LETTER AENdANdBANdCANdCHARdCHINdCILdDONdEN
dGANdGHANdHAEdHARdHEdHIEdHOEdINdJHANdJILdKANdKHARdLASdMANdNARdONdPARdPHARdQARdRAEdSANdSHINdTANdTAR
dUNdVINdWEdXANdYNdZENdZHARbLETTER AENcAINcANcBANcCANcCHARcCHINcCILcDONcELIFIcENcFIcGANcGHANcHAEcHAR
cHARD SIGNcHEcHIEcHOEcINcJHANcJILcKANcKHARcLABIAL SIGNcLAScMANcNARcONcPARcPHARcQARcRAEcSANcSHINcTAN
cTARcTURNED GANcUNcVINcWEcXANcYNcZENcZHARbMTAVRULI CAPITAL LETTER AENeAINeANeBANeCANeCHAReCHINeCIL
eDONeELIFIeENeFIeGANeGHANeHAEeHAReHARD SIGNeHEeHIEeHOEeINeJHANeJILeKANeKHAReLABIAL SIGNeLASeMANeNAR
eONePARePHAReQAReRAEeSANeSHINeTANeTAReTURNED GANeUNeVINeWEeXANeYNeZENeZHARbPARAGRAPH SEPARATOR
bSMALL LETTER AENdANdBANdCANdCHARdCHINdCILdDONdENdGANdGHANdHAEdHARdHEdHIEdHOEdINdJHANdJILdKANdKHAR
dLASdMANdNARdONdPARdPHARdQARdRAEdSANdSHINdTANdTARdUNdVINdWEdXANdYNdZENdZHARaGERMAN PENNY SIGN
aGETA MARKaGHOSTaGIMEL SYMBOLaGIRAFFE FACEaGIRLaGIRLS SYMBOLaGLAGOLITIC CAPITAL LETTER AZUdBIG YUS
dBUKYdCAUDATE CHRIVIdCHRIVIdDJERVIdDOBROdDZELOdFITAdFRITUdGLAGOLIdHERUdIdINITIAL IZHE
dIOTATED BIG YUSeSMALL YUSdIZHEdIZHITSAdKAKOdLATINATE MYSLITEdLJUDIJEdMYSLITEdNASHIdONUdOTUdPE
dPOKOJIdRITSIdSHAdSHTAdSHTAPICdSLOVOdSMALL YUSeYUS WITH TAILdSPIDERY HAdTROKUTASTI AdTSIdTVRIDOdUKU
dVEDEdYATIdYERIdYERUdYESTUdYOdYUdZEMLJAdZHIVETEbSMALL LETTER AZUdBIG YUSdBUKYdCAUDATE CHRIVIdCHRIVI
dDJERVIdDOBROdDZELOdFITAdFRITUdGLAGOLIdHERUdIdINITIAL IZHEdIOTATED BIG YUSeSMALL YUSdIZHEdIZHITSA
dKAKOdLATINATE MYSLITEdLJUDIJEdMYSLITEdNASHIdONUdOTUdPEdPOKOJIdRITSIdSHAdSHTAdSHTAPICdSLOVO
dSMALL YUSeYUS WITH TAILdSPIDERY HAdTROKUTASTI AdTSIdTVRIDOdUKUdVEDEdYATIdYERIdYERUdYESTUdYOdYU
dZEMLJAdZHIVETEaGLASS OF MILKaGLEICH STARKaGLOBE WITH MERIDIANSaGLOVESaGLOWING STARaGOAL NETaGOAT
aGOGGLESaGOLFERaGORILLAaGOTHIC LETTER AHSAcAIHVUScBAIRKANcDAGScEIScFAIHUcGIBAcHAGLcHWAIRcIGGWScIUJA
cJERcKUSMAcLAGUScMANNAcNAUTHScNINE HUNDREDcNINETYcOTHALcPAIRTHRAcQAIRTHRAcRAIDAcSAUILcTEIWScTHIUTH
cURUScWINJAaGRADUATION CAPaGRANTHA AU LENGTH MARKbLETTER AcAAcAIcAUcBAcBHAcCAcCHAcDAcDDAcDDHAcDHAcEE
cGAcGHAcHAcIcIIcJAcJHAcKAcKHAcLAcLLAcMAcNAcNGAcNNAcNYAcOOcPAcPHAcRAcSAcSHAcSSAcTAcTHAcTTAcTTHAcUcUU
cVAcVEDIC ANUSVARAdDOUBLE ANUSVARAcVOCALIC LdLLdRdRRcYAbOMbSIGN ANUSVARAcAVAGRAHAcCANDRABINDU
cCOMBINING ANUSVARA ABOVEcNUKTAcPLUTAcVIRAMAcVISARGAbVOWEL SIGN AAdAIdAUdEEdIdIIdOOdUdUUdVOCALIC L
eLLeReRRaGRAPESaGRAVE ACCENTaGREATER-THAN ABOVE DOUBLE-LINE EQUAL ABOVE LESS-THAN
dLESS-THAN ABOVE DOUBLE-LINE EQUALdRIGHTWARDS ARROWdSIMILAR ABOVE LESS-THANeOR EQUAL
dSLANTED EQUAL ABOVE LESS-THAN ABOVE SLANTED EQUALcAND NOT APPROXIMATEdSINGLE-LINE NOT EQUAL TO
cBESIDE LESS-THANcBUT NOT EQUAL TOeEQUIVALENT TOcCLOSED BY CURVEeCURVE ABOVE SLANTED EQUAL
cEQUAL TO OR LESS-THANcOR APPROXIMATEdEQUAL TOdEQUIVALENT TOdLESS-THANdSLANTED EQUAL TO
fTO WITH DOT ABOVEiABOVE LEFTiINSIDEcOVER EQUAL TOcOVERLAPPING LESS-THANcSIGNcWITH CIRCLE INSIDEdDOT
dQUESTION MARK ABOVEaGREEK ACROPHONIC ATTIC FIFTYdFIFTY STATERSeTALENTSeTHOUSANDeTHOUSAND STATERS
dFIVEdFIVE HUNDREDeHUNDRED STATERSfTALENTSeSTATERSeTALENTSeTHOUSANDeTHOUSAND TALENTSdONE DRACHMA
eHALFeHUNDRED STATERSfTALENTSeQUARTEReTHOUSAND STATERSfTALENTSdTEN MNASeSTATERSeTALENTS
eTHOUSAND STATERScCARYSTIAN FIVE HUNDREDcCYRENAIC TWO DRACHMAScDELPHIC FIVE MNAS
cEPIDAUREAN FIVE HUNDREDdTWOdTWO DRACHMAScHERAEUM ONE PLETHRONcHERMIONIAN FIFTYdONEdTEN
cMESSENIAN TENcNAXIAN FIVE HUNDREDcSTRATIAN FIFTY MNAScTHESPIAN FIFTYdFIVE HUNDREDeTHOUSANDdONE
dONE HUNDREDeTHOUSANDdTENdTHIRTYdTHREE HUNDREDdTWOcTROEZENIAN FIFTYdFIFTY ALTERNATE FORMdFIVE
dFIVE HUNDREDdTENdTEN ALTERNATE FORMbANO TELEIAbAROURA SIGNbARTABE SIGNbBETA SYMBOL
bCAPITAL DOTTED LUNATE SIGMA SYMBOLcKAI SYMBOLcLETTER ALPHAdALPHA WITH DASIAfDASIA AND OXIA
hOXIA AND PROSGEGRAMMENIhPERISPOMENIhPERISPOMENI AND PROSGEGRAMMENIhPROSGEGRAMMENIhVARIA
hVARIA AND PROSGEGRAMMENIfMACRONfOXIAfPROSGEGRAMMENIfPSILIfPSILI AND OXIAhOXIA AND PROSGEGRAMMENI
hPERISPOMENIhPERISPOMENI AND PROSGEGRAMMENIhPROSGEGRAMMENIhVARIAhVARIA AND PROSGEGRAMMENIfTONOS
fVARIAfVRACHYdARCHAIC SAMPIdBETAdCHIdDELTAdEPSILONdEPSILON WITH DASIAfDASIA AND OXIAhVARIAfOXIA
fPSILIfPSILI AND OXIAhVARIAfTONOSfVARIAdETAdETA WITH DASIAfDASIA AND OXIAhOXIA AND PROSGEGRAMMENI
hPERISPOMENIhPERISPOMENI AND PROSGEGRAMMENIhPROSGEGRAMMENIhVARIAhVARIA AND PROSGEGRAMMENIfOXIA
fPROSGEGRAMMENIfPSILIfPSILI AND OXIAhOXIA AND PROSGEGRAMMENIhPERISPOMENI
hPERISPOMENI AND PROSGEGRAMMENIhPROSGEGRAMMENIhVARIAhVARIA AND PROSGEGRAMMENIfTONOSfVARIAdGAMMAdHETA
dIOTAdIOTA WITH DASIAfDASIA AND OXIAhPERISPOMENIhVARIAfDIALYTIKAfMACRONfOXIAfPSILIfPSILI AND OXIA
hPERISPOMENIhVARIAfTONOSfVARIAfVRACHYdKAPPAdLAMDAdMUdNUdOMEGAdOMEGA WITH DASIAfDASIA AND OXIA
hOXIA AND PROSGEGRAMMENIhPERISPOMENIhPERISPOMENI AND PROSGEGRAMMENIhPROSGEGRAMMENIhVARIA
hVARIA AND PROSGEGRAMMENIfOXIAfPROSGEGRAMMENIfPSILIfPSILI AND OXIAhOXIA AND PROSGEGRAMMENI
hPERISPOMENIhPERISPOMENI AND PROSGEGRAMMENIhPROSGEGRAMMENIhVARIAhVARIA AND PROSGEGRAMMENIfTONOS
fVARIAdOMICRONdOMICRON WITH DASIAfDASIA AND OXIAhVARIAfOXIAfPSILIfPSILI AND OXIAhVARIAfTONOSfVARIA
dPAMPHYLIAN DIGAMMAdPHIdPIdPSIdRHOdRHO WITH DASIAdSANdSHOdSIGMAdTAUdTHETAdUPSILONdUPSILON WITH DASIA
fDASIA AND OXIAhPERISPOMENIhVARIAfDIALYTIKAfMACRONfOXIAfTONOSfVARIAfVRACHYdXIdYOTdZETA
cLUNATE SIGMA SYMBOLcREVERSED DOTTED LUNATE SIGMA SYMBOLdLUNATE SIGMA SYMBOLcTHETA SYMBOLbDASIA
bDASIA AND OXIAdPERISPOMENIdVARIAbDIALYTIKA AND OXIAdPERISPOMENIdVARIAcTONOSbDRACHMA SIGN
bFIVE OBOLS SIGNbFOUR OBOLS SIGNbGRAMMA SIGNbINDICTION SIGNbINSTRUMENTAL NOTATION SYMBOL-1e11e12e13
e14e17e18e19e2e23e24e25e26e27e29e30e32e36e37e38e39e4e40e42e43e45e47e48e49e5e50e51e52e53e54e7e8
bKAI SYMBOLbKAPPA SYMBOLbKORONISbKYATHOS BASE SIGNbLETTER ARCHAIC KOPPAcDIGAMMAcKOPPAcSAMPI
cSMALL CAPITAL GAMMAeLAMDAeOMEGAePIePSIeRHOcSTIGMAcYOTbLITRA SIGNbLOWER NUMERAL SIGN
bLUNATE EPSILON SYMBOLcSIGMA SYMBOLbMETRETES SIGNbMUSICAL LEIMMAbNUMERAL SIGNbOBOL SIGN
bONE HALF SIGNdSIGN ALTERNATE FORMcQUARTER SIGNbOUNKIA SIGNbOXIAbPERISPOMENIbPHI SYMBOLbPI SYMBOL
bPROSGEGRAMMENIbPSILIbPSILI AND OXIAdPERISPOMENIdVARIAbQUESTION MARKbREVERSED LUNATE EPSILON SYMBOL
bRHO SYMBOLcWITH STROKE SYMBOLbSINUSOID SIGNbSMALL DOTTED LUNATE SIGMA SYMBOLcLETTER ALPHA
dALPHA WITH DASIAfDASIA AND OXIAhOXIA AND YPOGEGRAMMENIhPERISPOMENIhPERISPOMENI AND YPOGEGRAMMENI
hVARIAhVARIA AND YPOGEGRAMMENIhYPOGEGRAMMENIfMACRONfOXIAfOXIA AND YPOGEGRAMMENIfPERISPOMENI
fPERISPOMENI AND YPOGEGRAMMENIfPSILIfPSILI AND OXIAhOXIA AND YPOGEGRAMMENIhPERISPOMENI
hPERISPOMENI AND YPOGEGRAMMENIhVARIAhVARIA AND YPOGEGRAMMENIhYPOGEGRAMMENIfTONOSfVARIA
fVARIA AND YPOGEGRAMMENIfVRACHYfYPOGEGRAMMENIdARCHAIC KOPPAeSAMPIdBETAdCHIdDELTAdDIGAMMAdEPSILON
dEPSILON WITH DASIAfDASIA AND OXIAhVARIAfOXIAfPSILIfPSILI AND OXIAhVARIAfTONOSfVARIAdETA
dETA WITH DASIAfDASIA AND OXIAhOXIA AND YPOGEGRAMMENIhPERISPOMENIhPERISPOMENI AND YPOGEGRAMMENI
hVARIAhVARIA AND YPOGEGRAMMENIhYPOGEGRAMMENIfOXIAfOXIA AND YPOGEGRAMMENIfPERISPOMENI
fPERISPOMENI AND YPOGEGRAMMENIfPSILIfPSILI AND OXIAhOXIA AND YPOGEGRAMMENIhPERISPOMENI
hPERISPOMENI AND YPOGEGRAMMENIhVARIAhVARIA AND YPOGEGRAMMENIhYPOGEGRAMMENIfTONOSfVARIA
fVARIA AND YPOGEGRAMMENIfYPOGEGRAMMENIdFINAL SIGMAdGAMMAdHETAdIOTAdIOTA WITH DASIAfDASIA AND OXIA
hPERISPOMENIhVARIAfDIALYTIKAfDIALYTIKA AND OXIAhPERISPOMENIhTONOShVARIAfMACRONfOXIAfPERISPOMENI
fPSILIfPSILI AND OXIAhPERISPOMENIhVARIAfTONOSfVARIAfVRACHYdKAPPAdKOPPAdLAMDAdMUdNUdOMEGA
dOMEGA WITH DASIAfDASIA AND OXIAhOXIA AND YPOGEGRAMMENIhPERISPOMENIhPERISPOMENI AND YPOGEGRAMMENI
hVARIAhVARIA AND YPOGEGRAMMENIhYPOGEGRAMMENIfOXIAfOXIA AND YPOGEGRAMMENIfPERISPOMENI
fPERISPOMENI AND YPOGEGRAMMENIfPSILIfPSILI AND OXIAhOXIA AND YPOGEGRAMMENIhPERISPOMENI
hPERISPOMENI AND YPOGEGRAMMENIhVARIAhVARIA AND YPOGEGRAMMENIhYPOGEGRAMMENIfTONOSfVARIA
fVARIA AND YPOGEGRAMMENIfYPOGEGRAMMENIdOMICRONdOMICRON WITH DASIAfDASIA AND OXIAhVARIAfOXIAfPSILI
fPSILI AND OXIAhVARIAfTONOSfVARIAdPAMPHYLIAN DIGAMMAdPHIdPIdPSIdRHOdRHO WITH DASIAfPSILIdSAMPIdSAN
dSHOdSIGMAdSTIGMAdTAUdTHETAdUPSILONdUPSILON WITH DASIAfDASIA AND OXIAhPERISPOMENIhVARIAfDIALYTIKA
fDIALYTIKA AND OXIAhPERISPOMENIhTONOShVARIAfMACRONfOXIAfPERISPOMENIfPSILIfPSILI AND OXIAhPERISPOMENI
hVARIAfTONOSfVARIAfVRACHYdXIdZETAcREVERSED DOTTED LUNATE SIGMA SYMBOLdLUNATE SIGMA SYMBOL
bSUBSCRIPT SMALL LETTER BETAeCHIeGAMMAePHIeRHObSYMBOL TAU RHObTALENT SIGNbTHETA SYMBOL
bTHREE OBOLS SIGNcQUARTERS SIGNbTONOSbTRYBLION BASE SIGNbTWO OBOLS SIGNcTHIRDS SIGN
bUPSILON WITH ACUTE AND HOOK SYMBOLdDIAERESIS AND HOOK SYMBOLdHOOK SYMBOLbVARIA
bVOCAL NOTATION SYMBOL-1e10e11e12e13e14e15e16e17e18e19e2e20e21e22e23e24e3e4e5e50e51e52e53e54e6e7e8e9
bXESTES SIGNbYEAR SIGNbYPOGEGRAMMENIbZERO SIGNaGREEN APPLEbBOOKbHEARTbSALADaGRIMACING FACE
aGRINNING CAT FACE WITH SMILING EYESbFACEbFACE WITH ONE LARGE AND ONE SMALL EYEdSMILING EYES
dSTAR EYESaGROUP MARKbSEPARATORaGROWING HEARTaGSaGUARANI SIGNaGUARDSMANaGUIDE DOGaGUITAR
aGUJARATI ABBREVIATION SIGNbDIGIT EIGHTcFIVEcFOURcNINEcONEcSEVENcSIXcTHREEcTWOcZERObLETTER AcAAcAI
cAUcBAcBHAcCAcCHAcDAcDDAcDDHAcDHAcEcGAcGHAcHAcIcIIcJAcJHAcKAcKHAcLAcLLAcMAcNAcNGAcNNAcNYAcOcPAcPHA
cRAcSAcSHAcSSAcTAcTHAcTTAcTTHAcUcUUcVAcVOCALIC LdLLdRdRRcYAcZHAbOMbRUPEE SIGNbSIGN ANUSVARAcAVAGRAHA
cCANDRABINDUcCIRCLE NUKTA ABOVEcMADDAHcNUKTAcSHADDAcSUKUNcTHREE-DOT NUKTA ABOVE
cTWO-CIRCLE NUKTA ABOVEcVIRAMAcVISARGAbVOWEL CANDRA EdOcSIGN AAdAIdAUdCANDRA EeOdEdIdIIdOdUdUU
dVOCALIC LeLLeReRRaGUNJALA GONDI DIGIT EIGHTdFIVEdFOURdNINEdONEdSEVENdSIXdTHREEdTWOdZEROcLETTER AdAA
dAIdAUdBAdBHAdCAdCHAdDAdDDAdDDHAdDHAdEEdGAdGHAdHAdIdIIdJAdJHAdKAdKHAdLAdLLAdMAdNAdNGAdOOdPAdPHAdRA
dSAdTAdTHAdTTAdTTHAdUdUUdVAdYAcOMcSIGN ANUSVARAdVISARGAcVIRAMAcVOWEL SIGN AAeAIeAUeEEeIeIIeOOeUeUU
aGURMUKHI ABBREVIATION SIGNbADDAKbDIGIT EIGHTcFIVEcFOURcNINEcONEcSEVENcSIXcTHREEcTWOcZERObEK ONKAR
bIRIbLETTER AcAAcAIcAUcBAcBHAcCAcCHAcDAcDDAcDDHAcDHAcEEcFAcGAcGHAcGHHAcHAcIcIIcJAcJHAcKAcKHAcKHHAcLA
cLLAcMAcNAcNGAcNNAcNYAcOOcPAcPHAcRAcRRAcSAcSHAcTAcTHAcTTAcTTHAcUcUUcVAcYAcZAbSIGN ADAK BINDIcBINDI
cNUKTAcUDAATcVIRAMAcVISARGAcYAKASHbTIPPIbURAbVOWEL SIGN AAdAIdAUdEEdIdIIdOOdUdUUaHADESaHAIR SPACE
aHAIRCUTaHALFWIDTH BLACK SQUAREbDOWNWARDS ARROWbFORMS LIGHT VERTICALbHANGUL FILLERcLETTER AdAE
dCHIEUCHdCIEUCdEdEOdEUdHIEUHdIdIEUNGdKHIEUKHdKIYEOKdKIYEOK-SIOSdMIEUMdNIEUNdNIEUN-CIEUCeHIEUHdOdOE
dPHIEUPHdPIEUPdPIEUP-SIOSdRIEULdRIEUL-HIEUHeKIYEOKeMIEUMePHIEUPHePIEUPeSIOSeTHIEUTHdSIOSdSSANGCIEUC
dSSANGKIYEOKdSSANGPIEUPdSSANGSIOSdSSANGTIKEUTdTHIEUTHdTIKEUTdUdWAdWAEdWEdWEOdWIdYAdYAEdYEdYEOdYIdYO
dYUbIDEOGRAPHIC COMMAcFULL STOPbKATAKANA LETTER AdEdHAdHEdHIdHOdHUdIdKAdKEdKIdKOdKUdMAdMEdMIdMOdMUdN
dNAdNEdNIdNOdNUdOdRAdREdRIdROdRUdSAdSEdSIdSMALL AeEeIeOeTUeUeYAeYOeYUdSOdSUdTAdTEdTIdTOdTUdUdWAdWO
dYAdYOdYUcMIDDLE DOTcSEMI-VOICED SOUND MARKcVOICED SOUND MARKbKATAKANA-HIRAGANA PROLONGED SOUND MARK
bLEFT CORNER BRACKETbLEFTWARDS ARROWbRIGHT CORNER BRACKETbRIGHTWARDS ARROWbUPWARDS ARROW
bWHITE CIRCLEaHAMBURGERaHAMMERaHAMMER AND PICKcSICKLEcWRENCHaHAMSAaHAMSTER FACE
aHAND WITH INDEX AND MIDDLE FINGERS CROSSEDdFINGER AND THUMB CROSSEDaHANDBAGaHANDBALLaHANDSHAKE
aHANGUL CHOSEONG CEONGCHIEUMCHIEUCHcCEONGCHIEUMCIEUCcCEONGCHIEUMSIOScCEONGCHIEUMSSANGCIEUC
cCEONGCHIEUMSSANGSIOScCHIEUCHcCHIEUCH-HIEUHdKHIEUKHcCHITUEUMCHIEUCHcCHITUEUMCIEUCcCHITUEUMSIOS
cCHITUEUMSSANGCIEUCcCHITUEUMSSANGSIOScCIEUCcCIEUC-IEUNGcFILLERcHIEUHcHIEUH-SIOScIEUNGcIEUNG-CHIEUCH
dCIEUCdHIEUHdKIYEOKdMIEUMdPANSIOSdPHIEUPHdPIEUPdRIEULdSIOSdTHIEUTHdTIKEUTcKAPYEOUNMIEUM
cKAPYEOUNPHIEUPHcKAPYEOUNPIEUPcKAPYEOUNRIEULcKAPYEOUNSSANGPIEUPcKHIEUKHcKIYEOKcKIYEOK-TIKEUTcMIEUM
cMIEUM-KIYEOKdPIEUPdSIOSdTIKEUTcNIEUNcNIEUN-CIEUCdHIEUHdKIYEOKdPIEUPdSIOSdTIKEUTcPANSIOScPHIEUPH
cPHIEUPH-HIEUHdPIEUPcPIEUPcPIEUP-CHIEUCHdCIEUCdHIEUHdKHIEUKHdKIYEOKdNIEUNdPHIEUPHdSIOSdSIOS-CIEUC
eKIYEOKePIEUPeTHIEUTHeTIKEUTdSSANGSIOSdTHIEUTHdTIKEUTcRIEULcRIEUL-CIEUCdHIEUHdKAPYEOUNPIEUPdKHIEUKH
dKIYEOKdMIEUMdNIEUNdPIEUPdSIOSdSSANGKIYEOKdSSANGPIEUPdSSANGTIKEUTdTIKEUTcSIOScSIOS-CHIEUCHdCIEUC
dHIEUHdIEUNGdKHIEUKHdKIYEOKdMIEUMdNIEUNdPHIEUPHdPIEUPdPIEUP-KIYEOKdRIEULdSSANGSIOSdTHIEUTHdTIKEUT
cSSANGCIEUCcSSANGCIEUC-HIEUHcSSANGHIEUHcSSANGIEUNGcSSANGKIYEOKcSSANGNIEUNcSSANGPIEUPcSSANGRIEUL
cSSANGSIOScSSANGSIOS-PIEUPcSSANGTHIEUTHcSSANGTIKEUTcSSANGYEORINHIEUHcTHIEUTHcTIKEUTcTIKEUT-CIEUC
dKIYEOKdMIEUMdPIEUPdRIEULdSIOScYEORINHIEUHcYESIEUNGbDOUBLE DOT TONE MARKbFILLERbJONGSEONG CHIEUCH
cCIEUCcCIEUC-PIEUPdSSANGPIEUPcHIEUHcHIEUH-MIEUMdNIEUNdPIEUPdRIEULcIEUNGcIEUNG-KHIEUKHdKIYEOK
dSSANGKIYEOKcKAPYEOUNMIEUMcKAPYEOUNPHIEUPHcKAPYEOUNPIEUPcKAPYEOUNRIEULcKHIEUKHcKIYEOKcKIYEOK-CHIEUCH
dHIEUHdKHIEUKHdNIEUNdPIEUPdRIEULdSIOSdSIOS-KIYEOKcMIEUMcMIEUM-CHIEUCHdCIEUCdHIEUHdKIYEOKdNIEUN
dPANSIOSdPIEUPdPIEUP-SIOSdRIEULdSIOSdSSANGNIEUNdSSANGSIOScNIEUNcNIEUN-CHIEUCHdCIEUCdHIEUHdKIYEOK
dPANSIOSdRIEULdSIOSdTHIEUTHdTIKEUTcPANSIOScPANSIOS-KAPYEOUNPIEUPdPIEUPcPHIEUPHcPHIEUPH-PIEUPdSIOS
dTHIEUTHcPIEUPcPIEUP-CHIEUCHdCIEUCdHIEUHdMIEUMdPHIEUPHdRIEULdRIEUL-PHIEUPHdSIOSdSIOS-TIKEUTdTIKEUT
cRIEULcRIEUL-HIEUHdKAPYEOUNPIEUPdKHIEUKHdKIYEOKdKIYEOK-HIEUHeSIOSdMIEUMdMIEUM-HIEUHeKIYEOKeSIOS
dNIEUNdPANSIOSdPHIEUPHdPIEUPdPIEUP-HIEUHePHIEUPHeSIOSeTIKEUTdSIOSdSSANGKIYEOKdSSANGSIOSdTHIEUTH
dTIKEUTdTIKEUT-HIEUHdYEORINHIEUHdYEORINHIEUH-HIEUHdYESIEUNGcSIOScSIOS-CHIEUCHdCIEUCdHIEUH
dKAPYEOUNPIEUPdKIYEOKdMIEUMdPANSIOSdPIEUPdRIEULdTHIEUTHdTIKEUTcSSANGCIEUCcSSANGIEUNGcSSANGKIYEOK
cSSANGMIEUMcSSANGNIEUNcSSANGPIEUPcSSANGRIEULcSSANGRIEUL-KHIEUKHcSSANGSIOScSSANGSIOS-KIYEOKdTIKEUT
cSSANGTIKEUTcSSANGTIKEUT-PIEUPcSSANGYESIEUNGcTHIEUTHcTIKEUTcTIKEUT-CHIEUCHdCIEUCdKIYEOKdPIEUPdRIEUL
dSIOSdSIOS-KIYEOKdTHIEUTHcYEORINHIEUHcYESIEUNGcYESIEUNG-HIEUHdKHIEUKHdKIYEOKdMIEUMdPANSIOSdSIOS
dSSANGKIYEOKbJUNGSEONG AcA-EUdOdUcAEcARAEAcARAEA-AdEdEOdIdUcEcEOcEO-EUdOdUcEUcEU-AdEdEOdEUdOdU
cFILLERcIcI-AdARAEAdEUdIdOdO-IdUdYAdYA-OdYAEdYEdYEOdYOdYUcOcO-EdEOdOdO-IdUdYAdYAEdYEdYEOcOE
cSSANGARAEAcUcU-AdAEdEO-EUdI-IdUdYEdYEOcWAcWAEcWEcWEOcWIcYAcYA-OdUdYOcYAEcYEcYEOcYEO-OdUdYAcYIcYI-U
cYOcYO-AdAEdEOdIdOdYAdYAEdYEOcYUcYU-AdAEdEdEOdIdOdUdYEdYEObLETTER AcAEcARAEAcARAEAEcCHIEUCHcCIEUCcE
cEOcEUcHIEUHcIcIEUNGcKAPYEOUNMIEUMcKAPYEOUNPHIEUPHcKAPYEOUNPIEUPcKAPYEOUNSSANGPIEUPcKHIEUKHcKIYEOK
cKIYEOK-SIOScMIEUMcMIEUM-PANSIOSdPIEUPdSIOScNIEUNcNIEUN-CIEUCdHIEUHdPANSIOSdSIOSdTIKEUTcOcOEcPANSIOS
cPHIEUPHcPIEUPcPIEUP-CIEUCdKIYEOKdSIOSdSIOS-KIYEOKeTIKEUTdTHIEUTHdTIKEUTcRIEULcRIEUL-HIEUHdKIYEOK
dKIYEOK-SIOSdMIEUMdPANSIOSdPHIEUPHdPIEUPdPIEUP-SIOSdSIOSdTHIEUTHdTIKEUTdYEORINHIEUHcSIOScSIOS-CIEUC
dKIYEOKdNIEUNdPIEUPdTIKEUTcSSANGCIEUCcSSANGHIEUHcSSANGIEUNGcSSANGKIYEOKcSSANGNIEUNcSSANGPIEUP
cSSANGSIOScSSANGTIKEUTcTHIEUTHcTIKEUTcUcWAcWAEcWEcWEOcWIcYAcYAEcYEcYEOcYEORINHIEUHcYESIEUNG
cYESIEUNG-PANSIOSdSIOScYIcYOcYO-IdYAdYAEcYUcYU-IdYEdYEObSINGLE DOT TONE MARKaHANGZHOU NUMERAL EIGHT
cFIVEcFOURcNINEcONEcSEVENcSIXcTENcTHIRTYcTHREEcTWENTYcTWOaHANIFI ROHINGYA DIGIT EIGHTdFIVEdFOURdNINE
dONEdSEVENdSIXdTHREEdTWOdZEROcLETTER AdBAdCAdDAdDDAdFAdGAdHAdJAdKAdKHAdKINNA WAeYAdLAdMAdNAdNGAdNYA
dPAdRAdRRAdSAdSHAdTAdTTAdVAdWAdYAdZAcMARK NA KHONNAdSAKINcSIGN HARBAHAYdTAHALAdTANAdTASSIcVOWEL AdE
dIdOdUaHANUNOO LETTER AcBAcDAcGAcHAcIcKAcLAcMAcNAcNGAcPAcRAcSAcTAcUcWAcYAbSIGN PAMUDPODbVOWEL SIGN I
dUaHAPPY PERSON RAISING ONE HANDaHARD DISKaHATCHING CHICKaHATRAN LETTER ALEPHcAYNcBETHcDALETH-RESH
cGIMELcHEcHETHcKAPHcLAMEDHcMEMcNUNcPEcQOPHcSADHEcSAMEKHcSHINcTAWcTETHcWAWcYODHcZAYNbNUMBER FIVEcONE
cONE HUNDREDcTENcTWENTYaHEADPHONEaHEADSTONEaHEADSTONE GRAVEYARD SYMBOLaHEAR-NO-EVIL MONKEY
aHEART DECORATIONbHANDSbWITH ARROWcRIBBONcTIP ON THE LEFTaHEAVY AMPERSAND ORNAMENT
bARROW SHAFT WIDTH ONEeONE HALFfTHIRDeTWO THIRDSbASTERISKbBALLOT X
bBLACK CURVED DOWNWARDS AND RIGHTWARDS ARROWdUPWARDS AND RIGHTWARDS ARROWcHEART
bBLACK-FEATHERED NORTH EAST ARROWdRIGHTWARDS ARROWdSOUTH EAST ARROWbCHECK MARKbCHEVRON SNOWFLAKE
bCIRCLEbCIRCLE WITH CIRCLE INSIDEdSTROKE AND TWO DOTS ABOVEbCIRCLED SALTIRE
bCONCAVE-POINTED BLACK RIGHTWARDS ARROWbDASHED TRIANGLE-HEADED RIGHTWARDS ARROWbDIVISION SIGN
bDOLLAR SIGNbDOUBLE COMMA QUOTATION MARK ORNAMENTcTURNED COMMA QUOTATION MARK ORNAMENT
bDOWNWARDS ARROW WITH EQUILATERAL ARROWHEADeLARGE EQUILATERAL ARROWHEADbEIGHT POINTED BLACK STAR
dPINWHEEL STARdRECTILINEAR BLACK STARcSPOKED ASTERISKcTEARDROP-SPOKED PROPELLER ASTERISKbEQUALS SIGN
bEXCLAMATION MARK ORNAMENTdSYMBOLbFIVE POINTED BLACK STARcSPOKED ASTERISK
bFOUR BALLOON-SPOKED ASTERISKbGREEK CROSSbHEART EXCLAMATION MARK ORNAMENTbHORIZONTAL FILL
bINTERROBANG ORNAMENTbLARGE CIRCLEbLATIN CROSSbLEFT-POINTING ANGLE BRACKET ORNAMENT
eQUOTATION MARK ORNAMENTbLEFTWARDS ARROW WITH EQUILATERAL ARROWHEADeLARGE EQUILATERAL ARROWHEAD
bLIGATURE OPEN ET ORNAMENTbLOW DOUBLE COMMA QUOTATION MARK ORNAMENT
cSINGLE COMMA QUOTATION MARK ORNAMENTbLOWER RIGHT-SHADOWED WHITE RIGHTWARDS ARROWbMINUS SIGN
bMULTIPLICATION XbNORTH EAST ARROWdPOINTING BUDeVINE LEAFcWEST POINTING BUDeVINE LEAF
bOPEN CENTRE CROSSbOUTLINED BLACK STARbOVAL WITH OVAL INSIDEbPLUS SIGN
bRIGHT-POINTING ANGLE BRACKET ORNAMENTeQUOTATION MARK ORNAMENTbRIGHTWARDS ARROW
cARROW WITH EQUILATERAL ARROWHEADeLARGE EQUILATERAL ARROWHEADbROUND-TIPPED RIGHTWARDS ARROWbSALTIRE
bSANS-SERIF INTERROBANG ORNAMENTbSCRIPT LIGATURE ET ORNAMENTbSINGLE COMMA QUOTATION MARK ORNAMENT
cTURNED COMMA QUOTATION MARK ORNAMENTbSIX POINTED BLACK STARcSPOKED ASTERISKbSOUTH EAST ARROW
dPOINTING BUDeVINE LEAFcWEST POINTING BUDeVINE LEAFbSPARKLEbTEARDROP-SHANKED RIGHTWARDS ARROW
cSPOKED ASTERISKdPINWHEEL ASTERISKbTRIANGLE-HEADED RIGHTWARDS ARROWbTWELVE POINTED BLACK STAR
dPINWHEEL STARbUPPER RIGHT-SHADOWED WHITE RIGHTWARDS ARROWbUPWARDS ARROW WITH EQUILATERAL ARROWHEAD
eLARGE EQUILATERAL ARROWHEADbVERTICAL BARbWEDGE-TAILED RIGHTWARDS ARROWbWHITE CIRCLE
cDOWN-POINTING TRIANGLEcSQUAREbWIDE-HEADED RIGHTWARDS ARROWaHEBREW ACCENT ATNAH HAFUKHcDARGAcDEHI
cETNAHTAcGERESHcGERESH MUQDAMcGERSHAYIMcILUYcMAHAPAKHcMERKHAcMERKHA KEFULAcMUNAHcOLEcPASHTAcPAZER
cQADMAcQARNEY PARAcREVIAcSEGOLcSHALSHELETcTELISHA GEDOLAdQETANAcTEVIRcTIPEHAcYERAH BEN YOMOcYETIV
cZAQEF GADOLdQATANcZARQAcZINORbLETTER ALEFcALEF WITH MAPIQePATAHeQAMATScALTERNATIVE AYINdPLUS SIGN
cAYINcBETcBET WITH DAGESHeRAFEcDALETcDALET WITH DAGESHcFINAL KAFdKAF WITH DAGESHdMEMdNUNdPE
dPE WITH DAGESHdTSADIcGIMELcGIMEL WITH DAGESHcHEcHE WITH MAPIQcHETcKAFcKAF WITH DAGESHeRAFEcLAMED
cLAMED WITH DAGESHcMEMcMEM WITH DAGESHcNUNcNUN WITH DAGESHcPEcPE WITH DAGESHeRAFEcQOF
cQOF WITH DAGESHcRESHcRESH WITH DAGESHcSAMEKHcSAMEKH WITH DAGESHcSHINcSHIN WITH DAGESH
eDAGESH AND SHIN DOTgSIN DOTeSHIN DOTeSIN DOTcTAVcTAV WITH DAGESHcTETcTET WITH DAGESHcTSADI
cTSADI WITH DAGESHcVAVcVAV WITH DAGESHeHOLAMcWIDE ALEFdDALETdFINAL MEMdHEdKAFdLAMEDdRESHdTAVcYOD
cYOD WITH DAGESHeHIRIQcZAYINcZAYIN WITH DAGESHbLIGATURE ALEF LAMEDcYIDDISH DOUBLE VAVeYODdVAV YOD
dYOD YOD PATAHbMARK LOWER DOTcMASORA CIRCLEcUPPER DOTbPOINT DAGESH OR MAPIQcHATAF PATAHdQAMATSdSEGOL
cHIRIQcHOLAMcHOLAM HASER FOR VAVcJUDEO-SPANISH VARIKAcMETEGcPATAHcQAMATScQAMATS QATANcQUBUTScRAFE
cSEGOLcSHEVAcSHIN DOTcSIN DOTcTSEREbPUNCTUATION GERESHcGERSHAYIMcMAQAFcNUN HAFUKHAcPASEQcSOF PASUQ
bYOD TRIANGLEaHEDGEHOGaHELICOPTERaHELLSCHREIBER PAUSE SYMBOLaHELM SYMBOLaHELMET WITH WHITE CROSS
aHENTAIGANA LETTER A-1d2d3dWOcE-1d2d3d4d5d6cHA-1d10d11d2d3d4d5d6d7d8d9cHE-1d2d3d4d5d6d7cHI-1d2d3d4d5
d6d7cHO-1d2d3d4d5d6d7d8cHU-1d2d3cI-1d2d3d4cKA-1d10d11d2d3d4d5d6d7d8d9dKEcKE-1d2d3d4d5d6cKI-1d2d3d4d5
d6d7d8cKO-1d2d3dKIcKU-1d2d3d4d5d6d7cMA-1d2d3d4d5d6d7cME-1d2dMAcMI-1d2d3d4d5d6d7cMO-1d2d3d4d5d6cMU-1
d2d3d4cN-MU-MO-1f2cNA-1d2d3d4d5d6d7d8d9cNE-1d2d3d4d5d6dKOcNI-1d2d3d4d5d6d7dTEcNO-1d2d3d4d5cNU-1d2d3
cO-1d2d3cRA-1d2d3d4cRE-1d2d3d4cRI-1d2d3d4d5d6d7cRO-1d2d3d4d5d6cRU-1d2d3d4d5d6cSA-1d2d3d4d5d6d7d8
cSE-1d2d3d4d5cSI-1d2d3d4d5d6cSO-1d2d3d4d5d6d7cSU-1d2d3d4d5d6d7d8cTA-1d2d3d4cTE-1d2d3d4d5d6d7d8d9
cTI-1d2d3d4d5d6d7cTO-1d2d3d4d5d6dRAcTU-1d2d3d4dTOcU-1d2d3d4d5cWA-1d2d3d4d5cWE-1d2d3d4cWI-1d2d3d4d5
cWO-1d2d3d4d5d6d7cYA-1d2d3d4d5dYOcYO-1d2d3d4d5d6cYU-1d2d3d4aHERBaHERMITIAN CONJUGATE MATRIX
aHEXAGRAM FOR ABUNDANCEcAFTER COMPLETIONcAPPROACHcBEFORE COMPLETIONcBITING THROUGHcBREAKTHROUGH
cCOMING TO MEETcCONFLICTcCONTEMPLATIONcDARKENING OF THE LIGHTcDECREASEcDELIVERANCEcDEVELOPMENT
cDIFFICULTY AT THE BEGINNINGcDISPERSIONcDURATIONcENTHUSIASMcFELLOWSHIPcFOLLOWINGcGATHERING TOGETHER
cGRACEcGREAT POSSESSIONdPOWERdPREPONDERANCEdTAMINGcHOLDING TOGETHERcINCREASEcINFLUENCEcINNER TRUTH
cINNOCENCEcLIMITATIONcMODESTYcMOUTH CORNERScOBSTRUCTIONcOPPOSITIONcOPPRESSIONcPEACEcPROGRESS
cPUSHING UPWARDcRETREATcRETURNcREVOLUTIONcSMALL PREPONDERANCEdTAMINGcSPLITTING APARTcSTANDSTILL
cTHE ABYSMAL WATERdARMYdAROUSING THUNDERdCAULDRONdCLINGING FIREdCREATIVE HEAVENdFAMILYdGENTLE WIND
dJOYOUS LAKEdKEEPING STILL MOUNTAINdMARRYING MAIDENdRECEPTIVE EARTHdWANDERERdWELLcTREADINGcWAITING
cWORK ON THE DECAYEDcYOUTHFUL FOLLYaHIBISCUSaHIGH BRIGHTNESS SYMBOLbOCTET PRESETbVOLTAGE SIGN
aHIGH-HEELED SHOEbSPEED TRAINcTRAIN WITH BULLET NOSEaHIKING BOOTaHINDU TEMPLEaHIPPOPOTAMUS
aHIRAGANA DIGRAPH YORIbITERATION MARKbLETTER AcARCHAIC WUdYEcBAcBEcBIcBOcBUcDAcDEcDIcDOcDUcEcGAcGE
cGIcGOcGUcHAcHEcHIcHOcHUcIcKAcKEcKIcKOcKUcMAcMEcMIcMOcMUcNcNAcNEcNIcNOcNUcOcPAcPEcPIcPOcPUcRAcREcRI
cROcRUcSAcSEcSIcSMALL AdEdIdKAdKEdOdTUdUdWAdWEdWIdWOdYAdYOdYUcSOcSUcTAcTEcTIcTOcTUcUcVUcWAcWEcWIcWO
cYAcYOcYUcZAcZEcZIcZOcZUbVOICED ITERATION MARKaHISTORIC SITEaHOCHOaHOLEaHOLLOW QUILT SQUARE ORNAMENT
dORNAMENT IN BLACK SQUAREaHOMOTHETICaHONEY POTaHONEYBEEaHOOKaHOPaHORIZONTAL BARbBLACK HEXAGON
cOCTAGONbELLIPSISbLINE EXTENSIONbMALE WITH STROKE SIGNbONE EIGHTH BLOCK-1358e2e3e4e5e6e7bSCAN LINE-1
d3d7d9bTAB KEYbTABULATIONbTABULATION SETcWITH JUSTIFICATIONbTRAFFIC LIGHTaHORSEaHORSE FACEbRACING
aHOSPITALaHOT BEVERAGEbDOGbPEPPERbSPRINGSaHOTELaHOURGLASSaHOURGLASS WITH FLOWING SANDaHOUSE
aHOUSE BUILDINGbBUILDINGSbWITH GARDENaHRYVNIA SIGNaHTaHTJaHTSaHUGGING FACEaHUNDRED POINTS SYMBOL
aHUSHED FACEaHUTaHYGIEAaHYPHENaHYPHEN BULLETbWITH DIAERESISaHYPHEN-MINUSaHYPHENATION POINT
aHYPODIASTOLEaHYSTERESIS SYMBOLaI LOVE YOU HAND SIGNaICE CREAMbCUBEbHOCKEY STICK AND PUCKbSKATE
aIDENTICAL TObTO AND SLANTED PARALLELbWITH DOT ABOVEaIDENTIFICATION CARD
aIDEOGRAPHIC ANNOTATION BOTTOM MARKcEARTH MARKcFIRST MARKcFOUR MARKcFOURTH MARKcHEAVEN MARK
cLINKING MARKcMAN MARKcMIDDLE MARKcONE MARKcREVERSE MARKcSECOND MARKcTHIRD MARKcTHREE MARKcTOP MARK
cTWO MARKbCLOSING MARKbCOMMAbDEPARTING TONE MARKbDESCRIPTION CHARACTER ABOVE TO BELOW
fMIDDLE AND BELOWdFULL SURROUNDdLEFT TO MIDDLE AND RIGHTfRIGHTdOVERLAIDdSURROUND FROM ABOVEfBELOW
fLEFTfLOWER LEFTfUPPER LEFTgRIGHTbENTERING TONE MARKbFULL STOPbHALF FILL SPACEbITERATION MARK
bLEVEL TONE MARKbNUMBER ZERObRISING TONE MARKbSPACEbTALLY MARK FIVEdFOURdONEdTHREEdTWO
bTELEGRAPH LINE FEED SEPARATOR SYMBOLcSYMBOL FOR APRILeAUGUSTeDAY EIGHTfEIGHTEENfELEVENfFIFTEENfFIVE
fFOURfFOURTEENfNINEfNINETEENfONEfSEVENfSEVENTEENfSIXfSIXTEENfTENfTHIRTEENfTHIRTYfTHIRTY-ONEfTHREE
fTWELVEfTWENTYfTWENTY-EIGHTgFIVEgFOURgNINEgONEgSEVENgSIXgTHREEgTWOfTWOeDECEMBEReFEBRUARYeHOUR EIGHT
fEIGHTEENfELEVENfFIFTEENfFIVEfFOURfFOURTEENfNINEfNINETEENfONEfSEVENfSEVENTEENfSIXfSIXTEENfTEN
fTHIRTEENfTHREEfTWELVEfTWENTYfTWENTY-FOURgONEgTHREEgTWOfTWOfZEROeJANUARYeJULYeJUNEeMARCHeMAY
eNOVEMBEReOCTOBEReSEPTEMBERbVARIATION INDICATORaIMAGE OFbOF OR APPROXIMATELY EQUAL TOaIMP
aIMPERIAL ARAMAIC LETTER ALEPHdAYINdBETHdDALETHdGIMELdHEdHETHdKAPHdLAMEDHdMEMdNUNdPEdQOPHdRESHdSADHE
dSAMEKHdSHINdTAWdTETHdWAWdYODHdZAYINcNUMBER ONEdONE HUNDREDeTHOUSANDdTENdTEN THOUSANDdTHREEdTWENTY
dTWOcSECTION SIGNaINBOX TRAYaINCOMING ENVELOPEaINCOMPLETE INFINITYaINCREASE FONT SIZE SYMBOL
aINCREASES ASaINCREMENTaINDaINDEXaINDEX POINTING AT THE VIEWERaINDIAN RUPEE SIGN
aINDIC SIYAQ ALTERNATE LAKH MARKcFRACTION ONE HALFeQUARTERdTHREE QUARTERScLAKH MARK
cNUMBER ALTERNATE ONEeTEN THOUSANDeTWOdEIGHTdEIGHT HUNDREDeTHOUSANDdEIGHTYdEIGHTY THOUSANDdFIFTY
dFIFTY THOUSANDdFIVEdFIVE HUNDREDeTHOUSANDdFORTYdFORTY THOUSANDdFOURdFOUR HUNDREDeTHOUSANDdKAROR
dKARORANdLAKHdLAKHANdNINEdNINE HUNDREDeTHOUSANDdNINETYdNINETY THOUSANDdONEdONE HUNDREDeTHOUSAND
dPREFIXED EIGHTeFIVEeFOUReNINEeONEeSEVENeSIXeTHREEeTWOdSEVENdSEVEN HUNDREDeTHOUSANDdSEVENTY
dSEVENTY THOUSANDdSIXdSIX HUNDREDeTHOUSANDdSIXTYdSIXTY THOUSANDdTENdTEN THOUSANDdTHIRTY
dTHIRTY THOUSANDdTHREEdTHREE HUNDREDeTHOUSANDdTWENTYdTWENTY THOUSANDdTWOdTWO HUNDREDeTHOUSAND
cPLACEHOLDERcRUPEE MARKaINFINITYaINFINITY NEGATED WITH VERTICAL BARaINFORMATION DESK PERSON
bSEPARATOR FOURcONEcTHREEcTWObSOURCEaINHIBIT ARABIC FORM SHAPINGbSYMMETRIC SWAPPING
aINPUT SYMBOL FOR LATIN CAPITAL LETTERSeLETTERSeSMALL LETTERSdNUMBERSdSYMBOLS
aINSCRIPTIONAL PAHLAVI LETTER ALEPHdBETHdDALETHdGIMELdHEdHETHdKAPHdLAMEDHdMEM-QOPHdNUNdPEdSADHE
dSAMEKHdSHINdTAWdTETHdWAW-AYIN-RESHdYODHdZAYINcNUMBER FOURdONEdONE HUNDREDeTHOUSANDdTENdTHREEdTWENTY
dTWObPARTHIAN LETTER ALEPHdAYINdBETHdDALETHdGIMELdHEdHETHdKAPHdLAMEDHdMEMdNUNdPEdQOPHdRESHdSADHE
dSAMEKHdSHINdTAWdTETHdWAWdYODHdZAYINcNUMBER FOURdONEdONE HUNDREDeTHOUSANDdTENdTHREEdTWENTYdTWO
aINSERTION SYMBOLaINTEGRALaINTEGRAL AROUND A POINT OPERATORbAVERAGE WITH SLASHbEXTENSION
bWITH DOUBLE STROKEcINTERSECTIONcLEFTWARDS ARROW WITH HOOKcOVERBARcTIMES SIGNcUNDERBARcUNION
aINTERCALATEaINTERIOR PRODUCTaINTERLINEAR ANNOTATION ANCHORcSEPARATORcTERMINATOR
aINTERLOCKED FEMALE AND MALE SIGNaINTERROBANGaINTERSECTIONaINTERSECTION ABOVE BAR ABOVE UNIONcUNION
bBESIDE AND JOINED WITH INTERSECTIONbWITH DOTcLOGICAL ANDcOVERBARaINVERSE BULLETbCHECK MARK
bCHECKER BOARD FILLbDOWNWARDS ARROW WITH TIP LEFTWARDSbMEDIUM SHADEbWHITE CIRCLE
aINVERTED EXCLAMATION MARKbINTERROBANGbLAZY SbLOW KAVYKAcKAVYKA WITH KAVYKA ABOVEbOHM SIGNbPENTAGRAM
bQUESTION MARKbUNDERTIEaINVISIBLE PLUSbSEPARATORbTIMESaIZAKAYA LANTERNaJACK-O-LANTERN
aJAPANESE BANK SYMBOLbCASTLEbDOLLSbGOBLINbINDUSTRIAL STANDARD SYMBOLbOGREbPOST OFFICE
bSYMBOL FOR BEGINNERaJARaJAVANESE CONSONANT SIGN CAKRAdKERETdPENGKALbDIGIT EIGHTcFIVEcFOURcNINEcONE
cSEVENcSIXcTHREEcTWOcZERObLEFT RERENGGANbLETTER AcAIcBAcBA MURDAcCAcCA MURDAcDAcDA MAHAPRANAcDDA
cDDA MAHAPRANAcEcGAcGA MURDAcHAcIcI KAWIcIIcJAcJA MAHAPRANAcKAcKA MURDAdSASAKcLAcMAcNAcNA MURDAcNGA
cNGA LELETdLELET RASWADIcNYAcNYA MURDAcOcPAcPA CEREKdMURDAcRAcRA AGUNGcSAcSA MAHAPRANAdMURDAcTA
cTA MURDAcTTAcTTA MAHAPRANAcUcWAcYAbPADA ADEGcADEG ADEGcANDAPcISEN-ISENcLINGSAcLUHURcLUNGSIcMADYA
cPANGKATcPISELEHcTIRTA TUMETEScWINDUbPANGKONbPANGRANGKEPbRIGHT RERENGGANbSIGN CECAKcCECAK TELUcLAYAR
cPANYANGGAcWIGNYANbTURNED PADA PISELEHbVOWEL SIGN DIRGA MUREdPEPETdSUKUdSUKU MENDUTdTALINGdTARUNG
dTOLONGdWULUdWULU MELIKaJEANSaJIGSAW PUZZLE PIECEaJOINaJOYSTICKaJUGGLINGaJUNOaJUPITERaKAABA
aKAITHI ABBREVIATION SIGNbDANDAbDOUBLE DANDAcSECTION MARKbENUMERATION SIGNbLETTER AcAAcAIcAUcBAcBHA
cCAcCHAcDAcDDAcDDDHAcDDHAcDHAcEcGAcGHAcHAcIcIIcJAcJHAcKAcKHAcLAcMAcNAcNGAcNNAcNYAcOcPAcPHAcRAcRHAcSA
cSHAcSSAcTAcTHAcTTAcTTHAcUcUUcVAcYAbNUMBER SIGNcSIGN ABOVEbSECTION MARKbSIGN ANUSVARAcCANDRABINDU
cNUKTAcVIRAMAcVISARGAbVOWEL SIGN AAdAIdAUdEdIdIIdOdUdUUdVOCALIC RaKANGAROOaKANGXI RADICAL AGAINcAND
cARRIVEcARROWcAXEcBADGERcBAMBOOcBEANcBIGcBIRDcBITTERcBLACKcBLOODcBLUEcBOATcBODYcBOLT OF CLOTHcBONE
cBOWcBRANCHcBRISTLEcBRUSHcCARTcCAULDRONcCAVEcCHILDcCITYcCLANcCLAWcCLIFFcCLOTHEScCOLORcCOMPAREcCORPSE
cCOVERcCOWcDEATHcDEERcDIPPERcDISHcDISTINGUISHcDIVINATIONcDO NOTcDOGcDOORcDOTcDOTTED CLIFFdTENT
cDOUBLE XcDOWN BOXcDRAGONcDRUMcDRYcEARcEARTHcEATcEIGHTcEMBROIDERYcENCLOSUREcENTERcEVENcEVENINGcEYE
cFACEcFANGcFATHERcFEATHERcFIELDcFIGHTcFIREcFISHcFLUTEcFLYcFOOTcFRAGRANTcFROGcFURcGATEcGHOSTcGO
cGO SLOWLYcGOLDcGRAINcGRASScHAIRcHALBERDcHALF TREE TRUNKcHANDcHEADcHEARTcHEMPcHIDING ENCLOSUREcHOOK
cHORNcHORSEcICEcINCHcINSECTcJADEcJARcKNIFEcLACKcLAMEcLEAFcLEATHERcLEEKcLEGScLIDcLIFEcLINEcLONG
cLONG STRIDEcMANcMEATcMELONcMILLETcMINISTERcMOONcMORNINGcMORTARcMOUNDcMOUNTAINcMOUTHcNETcNOSEcNOT
cOLDcONEcONESELFcOPEN BOXcOPPOSEcPIGcPLOWcPOWERcPRIVATEcPROFOUNDcRAINcRAPcRATcREDcRICE
cRIGHT OPEN BOXcRIVERcROOFcRUNcSACRIFICIAL WINEcSALTcSAYcSCHOLARcSCRIPTcSEALcSECONDcSEEcSELFcSHEEP
cSHELLcSHOOTcSHORT TAILED BIRDdTHREADcSICKNESScSILKcSKINcSLASHcSLAVEcSLICEcSMALLcSNOUTcSOUNDcSPEAR
cSPEECHcSPIRITcSPOONcSPROUTcSQUAREcSTANDcSTEAMcSTEPcSTONEcSTOPcSTOPPINGcSUNcSWEETcTABLEcTALL
cTANNED LEATHERcTENcTIGERcTILEcTONGUEcTOOTHcTRACKcTREEcTRIPODcTURBANcTURTLEcTWOcTWO HANDScUSEcVALLEY
cVILLAGEcWALKcWALK ENCLOSUREcWATERcWEAPONcWESTcWHEATcWHITEcWINDcWINEcWOMANcWORKcWRAPcWRONGcYELLOW
aKANNADA AI LENGTH MARKbDIGIT EIGHTcFIVEcFOURcNINEcONEcSEVENcSIXcTHREEcTWOcZERObLENGTH MARKbLETTER A
cAAcAIcAUcBAcBHAcCAcCHAcDAcDDAcDDHAcDHAcEcEEcFAcGAcGHAcHAcIcIIcJAcJHAcKAcKHAcLAcLLAcLLLAcMAcNA
cNAKAARA POLLUcNGAcNNAcNYAcOcOOcPAcPHAcRAcRRAcSAcSHAcSSAcTAcTHAcTTAcTTHAcUcUUcVAcVOCALIC LdLLdRdRR
cYAbSIGN ANUSVARAcAVAGRAHAcCANDRABINDUcJIHVAMULIYAcNUKTAcSIDDHAMcSPACING CANDRABINDUcUPADHMANIYA
cVIRAMAcVISARGAbVOWEL SIGN AAdAIdAUdEdEEdIdIIdOdOOdUdUUdVOCALIC LeLLeReRRaKATAKANA DIGRAPH KOTO
bITERATION MARKbLETTER AcARCHAIC EdWUdYEdYIcBAcBEcBIcBOcBUcDAcDEcDIcDOcDUcEcGAcGEcGIcGOcGUcHAcHEcHI
cHOcHUcIcKAcKEcKIcKOcKUcMAcMEcMIcMINNAN NASALIZED TONE-1f2f3f4f5f7f8dTONE-2e3e4e5e7e8cMOcMUcNcNAcNE
cNIcNOcNUcOcPAcPEcPIcPOcPUcRAcREcRIcROcRUcSAcSEcSIcSMALL AdEdHAdHEdHIdHOdHUdIdKAdKEdKUdMUdNdNUdOdRA
dREdRIdROdRUdSIdSUdTOdTUdUdWAdWEdWIdWOdYAdYOdYUcSOcSUcTAcTEcTIcTOcTUcUcVAcVEcVIcVOcVUcWAcWEcWIcWOcYA
cYOcYUcZAcZEcZIcZOcZUbMIDDLE DOTbVOICED ITERATION MARKaKATAKANA-HIRAGANA DOUBLE HYPHEN
cPROLONGED SOUND MARKcSEMI-VOICED SOUND MARKcVOICED SOUND MARKaKAYAH LI DIGIT EIGHTdFIVEdFOURdNINE
dONEdSEVENdSIXdTHREEdTWOdZEROcLETTER AdBAdCAdDAdGAdHAdHTAdIdKAdKHAdLAdMAdNAdNGAdNYAdOEdOOdPAdPHAdRA
dSAdSHAdTAdTHAdVAdWAdYAdZAcSIGN CWIdSHYAcTONE CALYAdCALYA PLOPHUdPLOPHUcVOWEL EdEEdOdUdUE
aKELVIN SIGNaKEYaKEYBOARDaKEYBOARD AND MOUSEaKEYCAP TENaKHAROSHTHI DIGIT FOURcONEcTHREEcTWO
bFRACTION ONE HALFbLETTER AcBAcBHAcCAcCHAcDAcDDAcDDHAcDHAcGAcGHAcHAcJAcKAcKHAcKKAcLAcMAcNAcNNAcNYA
cPAcPHAcRAcSAcSHAcSSAcTAcTHAcTTAcTTHAcTTTAcTTTHAcVAcVHAcYAcZAbNUMBER ONE HUNDREDdTHOUSANDcTENcTWENTY
bPUNCTUATION CIRCLEcCRESCENT BARcDANDAcDOTcDOUBLE DANDAcLINEScLOTUScMANGALAMcSMALL CIRCLE
bSIGN ANUSVARAcBAR ABOVEcCAUDAcDOT BELOWcDOUBLE RING BELOWcVISARGAbVIRAMAbVOWEL LENGTH MARKcSIGN EdI
dOdUdVOCALIC RaKHITAN SMALL SCRIPT CHARACTER-18B00e18B01e18B02e18B03e18B04e18B05e18B06e18B07e18B08
e18B09e18B0Ae18B0Be18B0Ce18B0De18B0Ee18B0Fe18B10e18B11e18B12e18B13e18B14e18B15e18B16e18B17e18B18
e18B19e18B1Ae18B1Be18B1Ce18B1De18B1Ee18B1Fe18B20e18B21e18B22e18B23e18B24e18B25e18B26e18B27e18B28
e18B29e18B2Ae18B2Be18B2Ce18B2De18B2Ee18B2Fe18B30e18B31e18B32e18B33e18B34e18B35e18B36e18B37e18B38
e18B39e18B3Ae18B3Be18B3Ce18B3De18B3Ee18B3Fe18B40e18B41e18B42e18B43e18B44e18B45e18B46e18B47e18B48
e18B49e18B4Ae18B4Be18B4Ce18B4De18B4Ee18B4Fe18B50e18B51e18B52e18B53e18B54e18B55e18B56e18B57e18B58
e18B59e18B5Ae18B5Be18B5Ce18B5De18B5Ee18B5Fe18B60e18B61e18B62e18B63e18B64e18B65e18B66e18B67e18B68
e18B69e18B6Ae18B6Be18B6Ce18B6De18B6Ee18B6Fe18B70e18B71e18B72e18B73e18B74e18B75e18B76e18B77e18B78
e18B79e18B7Ae18B7Be18B7Ce18B7De18B7Ee18B7Fe18B80e18B81e18B82e18B83e18B84e18B85e18B86e18B87e18B88
e18B89e18B8Ae18B8Be18B8Ce18B8De18B8Ee18B8Fe18B90e18B91e18B92e18B93e18B94e18B95e18B96e18B97e18B98
e18B99e18B9Ae18B9Be18B9Ce18B9De18B9Ee18B9Fe18BA0e18BA1e18BA2e18BA3e18BA4e18BA5e18BA6e18BA7e18BA8
e18BA9e18BAAe18BABe18BACe18BADe18BAEe18BAFe18BB0e18BB1e18BB2e18BB3e18BB4e18BB5e18BB6e18BB7e18BB8
e18BB9e18BBAe18BBBe18BBCe18BBDe18BBEe18BBFe18BC0e18BC1e18BC2e18BC3e18BC4e18BC5e18BC6e18BC7e18BC8
e18BC9e18BCAe18BCBe18BCCe18BCDe18BCEe18BCFe18BD0e18BD1e18BD2e18BD3e18BD4e18BD5e18BD6e18BD7e18BD8
e18BD9e18BDAe18BDBe18BDCe18BDDe18BDEe18BDFe18BE0e18BE1e18BE2e18BE3e18BE4e18BE5e18BE6e18BE7e18BE8
e18BE9e18BEAe18BEBe18BECe18BEDe18BEEe18BEFe18BF0e18BF1e18BF2e18BF3e18BF4e18BF5e18BF6e18BF7e18BF8
e18BF9e18BFAe18BFBe18BFCe18BFDe18BFEe18BFFe18C00e18C01e18C02e18C03e18C04e18C05e18C06e18C07e18C08
e18C09e18C0Ae18C0Be18C0Ce18C0De18C0Ee18C0Fe18C10e18C11e18C12e18C13e18C14e18C15e18C16e18C17e18C18
e18C19e18C1Ae18C1Be18C1Ce18C1De18C1Ee18C1Fe18C20e18C21e18C22e18C23e18C24e18C25e18C26e18C27e18C28
e18C29e18C2Ae18C2Be18C2Ce18C2De18C2Ee18C2Fe18C30e18C31e18C32e18C33e18C34e18C35e18C36e18C37e18C38
e18C39e18C3Ae18C3Be18C3Ce18C3De18C3Ee18C3Fe18C40e18C41e18C42e18C43e18C44e18C45e18C46e18C47e18C48
e18C49e18C4Ae18C4Be18C4Ce18C4De18C4Ee18C4Fe18C50e18C51e18C52e18C53e18C54e18C55e18C56e18C57e18C58
e18C59e18C5Ae18C5Be18C5Ce18C5De18C5Ee18C5Fe18C60e18C61e18C62e18C63e18C64e18C65e18C66e18C67e18C68
e18C69e18C6Ae18C6Be18C6Ce18C6De18C6Ee18C6Fe18C70e18C71e18C72e18C73e18C74e18C75e18C76e18C77e18C78
e18C79e18C7Ae18C7Be18C7Ce18C7De18C7Ee18C7Fe18C80e18C81e18C82e18C83e18C84e18C85e18C86e18C87e18C88
e18C89e18C8Ae18C8Be18C8Ce18C8De18C8Ee18C8Fe18C90e18C91e18C92e18C93e18C94e18C95e18C96e18C97e18C98
e18C99e18C9Ae18C9Be18C9Ce18C9De18C9Ee18C9Fe18CA0e18CA1e18CA2e18CA3e18CA4e18CA5e18CA6e18CA7e18CA8
e18CA9e18CAAe18CABe18CACe18CADe18CAEe18CAFe18CB0e18CB1e18CB2e18CB3e18CB4e18CB5e18CB6e18CB7e18CB8
e18CB9e18CBAe18CBBe18CBCe18CBDe18CBEe18CBFe18CC0e18CC1e18CC2e18CC3e18CC4e18CC5e18CC6e18CC7e18CC8
e18CC9e18CCAe18CCBe18CCCe18CCDe18CCEe18CCFe18CD0e18CD1e18CD2e18CD3e18CD4e18CD5dFILLER
aKHMER CURRENCY SYMBOL RIELbDIGIT EIGHTcFIVEcFOURcNINEcONEcSEVENcSIXcTHREEcTWOcZERO
bINDEPENDENT VOWEL LYdLYYdQAAdQAIdQAQdQAUdQEdQIdQIIdQOO TYPE ONEfTWOdQUdQUKdQUUdQUUVdRYdRYY
bLETTER BAcCAcCHAcCHOcCOcDAcDOcHAcKAcKHAcKHOcKOcLAcLOcMOcNGOcNNOcNOcNYOcPHAcPHOcPOcQAcROcSAcSHAcSSO
cTAcTHAcTHOcTOcTTHAcTTHOcVOcYObSIGN AHSDAcATTHACANcAVAKRAHASANYAcBANTOCcBARIYOOSANcBATHAMASATcBEYYAL
cCAMNUC PII KUUHcCOENGcKAKABATcKHANcKOOMUUTcLEK TOOcMUUSIKATOANcNIKAHITcPHNAEK MUANcREAHMUKcROBAT
cSAMYOK SANNYAcTOANDAKHIATcTRIISAPcVIRIAMcYUUKALEAPINTUbSYMBOL BEI KOETdROCcBUON KOETdROCcDAP KOET
dROCcDAP-BEI KOETeROCdBUON KOETeROCdMUOY KOETeROCdPII KOETeROCdPRAM KOETeROCcLEK ATTAK BEIeBUONeMUOY
ePIIePRAMePRAM-BEIfBUONfMUOYfPIIeSONcMUOY KOETdROCcPATHAMASATcPII KOETdROCcPRAM KOETdROC
cPRAM-BEI KOETeROCdBUON KOETeROCdMUOY KOETeROCdPII KOETeROCcTUTEYASATbVOWEL INHERENT AAdAQcSIGN AA
dAEdAIdAUdEdIdIEdIIdOEdOOdUdUAdUUdYdYAdYYaKHOJKI ABBREVIATION SIGNbDANDAbDOUBLE DANDAcSECTION MARK
bLETTER AcAAcAIcAUcBAcBBAcBHAcCAcCHAcDAcDDAcDDDAcDDHAcDHAcEcGAcGGAcGHAcHAcIcJAcJJAcKAcKHAcLAcLLAcMA
cNAcNGAcNNAcNYAcOcPAcPHAcRAcSAcTAcTHAcTTAcTTHAcUcVAcYAbSECTION MARKbSIGN ANUSVARAcNUKTAcSHADDAcSUKUN
cVIRAMAbVOWEL SIGN AAdAIdAUdEdIdIIdOdUbWORD SEPARATORaKHUDAWADI DIGIT EIGHTcFIVEcFOURcNINEcONEcSEVEN
cSIXcTHREEcTWOcZERObLETTER AcAAcAIcAUcBAcBBAcBHAcCAcCHAcDAcDDAcDDDAcDDHAcDHAcEcGAcGGAcGHAcHAcIcIIcJA
cJHAcJJAcKAcKHAcLAcMAcNAcNGAcNNAcNYAcOcPAcPHAcRAcRRAcSAcSHAcTAcTHAcTTAcTTHAcUcUUcVAcYAbSIGN ANUSVARA
cNUKTAcVIRAMAbVOWEL SIGN AAdAIdAUdEdIdIIdOdUdUUaKIMONOaKIP SIGNaKISSaKISS MARK
aKISSING CAT FACE WITH CLOSED EYESbFACEbFACE WITH CLOSED EYESdSMILING EYESaKITEaKIWIFRUIT
aKNEELING PERSONaKNOTaKOALAaKOREAN STANDARD SYMBOLaKRONOS
"

end LeastPrivilege.Text
