/-!
Names of characters that begin with one of the letters `T` to `Z`.
-/

namespace LeastPrivilege.Text

/-- The names of characters that begin with one of the letters `T` to `Z`, in the short form. -/
def namesTToZ : String := "
aT-REXbSHIRTaTABaTABLE TENNIS PADDLE AND BALLaTACOaTAG AMPERSANDbAPOSTROPHEbASTERISK
bCIRCUMFLEX ACCENTbCOLONbCOMMAbCOMMERCIAL ATbDIGIT EIGHTcFIVEcFOURcNINEcONEcSEVENcSIXcTHREEcTWOcZERO
bDOLLAR SIGNbEQUALS SIGNbEXCLAMATION MARKbFULL STOPbGRAVE ACCENTbGREATER-THAN SIGNbHYPHEN-MINUS
bLATIN CAPITAL LETTER AeBeCeDeEeFeGeHeIeJeKeLeMeNeOePeQeReSeTeUeVeWeXeYeZcSMALL LETTER AeBeCeDeEeFeG
eHeIeJeKeLeMeNeOePeQeReSeTeUeVeWeXeYeZbLEFT CURLY BRACKETcPARENTHESIScSQUARE BRACKETbLESS-THAN SIGN
bLOW LINEbNUMBER SIGNbPERCENT SIGNbPLUS SIGNbQUESTION MARKbQUOTATION MARKbREVERSE SOLIDUS
bRIGHT CURLY BRACKETcPARENTHESIScSQUARE BRACKETbSEMICOLONbSOLIDUSbSPACEbTILDEbVERTICAL LINE
aTAGALOG LETTER AcARCHAIC RAcBAcDAcGAcHAcIcKAcLAcMAcNAcNGAcPAcRAcSAcTAcUcWAcYAbSIGN PAMUDPODcVIRAMA
bVOWEL SIGN IdUaTAGBANWA LETTER AcBAcDAcGAcIcKAcLAcMAcNAcNGAcPAcSAcTAcUcWAcYAbVOWEL SIGN IdU
aTAI LE LETTER AdAIdAUEdEdEEdEHdFAdHAdIdKAdKHAdLAdMAdNAdNGAdOdOOdPAdPHAdQAdSAdTAdTHAdTONE-2e3e4e5e6
dTSAdTSHAdUdUEdVAdXAdYAbTHAM COMBINING CRYPTOGRAMMIC DOTcCONSONANT SIGN BAeFINAL NGA
eHIGH RATHA OR LOW PAeLA TANG LAIeLOW PAeMAeMEDIAL LAfRAeSAcHORA DIGIT EIGHTeFIVEeFOUReNINEeONE
eSEVENeSIXeTHREEeTWOeZEROcLETTER AdBAdDAdEEdGREAT SAdHIGH CAeCHAeFAeHAeKAeKHAeKXAePAePHAeRATHAeSA
eSHAeSSAeTAeTHAeYAdIdIIdLAdLAEdLLAdLOW CAeCHAeFAeHAeKAeKHAeKXAePAePHAeRATHAeSAeTAeTHAeYAdLUEdMAdNA
dNGAdNYAdOOdRAdRANAdRATAdRUEdUdUUdWAcSIGN CAANGdDOKMAIdHANGdHOYdKAANdKAANKUUdKEOWdKHUEN TONE-3f4f5
dKHUEN-LUE KARANdMAI KANGeKANG LAIeSAMeYAMOKdRA HAAMdREVERSED ROTATED RANAdSAKOTdSATKAANdSATKAANKUU
dSAWANdTONE-1e2dWIANGdWIANGWAAKcTHAM DIGIT EIGHTeFIVEeFOUReNINEeONEeSEVENeSIXeTHREEeTWOeZERO
cVOWEL SIGN AeAAeAEeAIeEeIeIIeMAI SATeOeOA ABOVEfBELOWeOOeOYeTALL AAeTHAM AIeUeUEeUUeUUE
bVIET LETTER HIGH BOeCHOeCOeDOeFOeGOeHOeKHHOeKHOeKOeLOeMOeNGOeNOeNYOeOePHOePOeROeSOeTHOeTOeVOeYO
dLOW BOeCHOeCOeDOeFOeGOeHOeKHHOeKHOeKOeLOeMOeNGOeNOeNYOeOePHOePOeROeSOeTHOeTOeVOeYOcMAI KANGdKHIT
cSYMBOL HO HOIdKOI KOIdKONdNUENGdSAMcTONE MAI EKeNUENGeSONGeTHOcVOWEL AAdAMdANdAUEdAYdEdIdIAdOdUdUA
dUEdUEAaTAKEOUT BOXaTAKRI ABBREVIATION SIGNbDIGIT EIGHTcFIVEcFOURcNINEcONEcSEVENcSIXcTHREEcTWOcZERO
bLETTER AcAAcAIcARCHAIC KHAcAUcBAcBHAcCAcCHAcDAcDDAcDDHAcDHAcEcGAcGHAcHAcIcIIcJAcJHAcKAcKHAcLAcMAcNA
cNGAcNNAcNYAcOcPAcPHAcRAcRRAcSAcSHAcTAcTHAcTTAcTTHAcUcUUcVAcYAbSIGN ANUSVARAcNUKTAcVIRAMAcVISARGA
bVOWEL SIGN AAdAIdAUdEdIdIIdOdUdUUaTALLY MARK FIVEcONEaTAMALEaTAMIL AND ODD SIGNbAS ABOVE SIGN
bAU LENGTH MARKbCREDIT SIGNbCURRENT SIGNbDAY SIGNbDEBIT SIGNbDIGIT EIGHTcFIVEcFOURcNINEcONEcSEVEN
cSIXcTHREEcTWOcZERObDRY CULTIVATION SIGNbFRACTION DOWNSCALING FACTOR KIIZHcONE EIGHTHdEIGHTIETH
dFIFTHdFORTIETHdHALF-1e2dONE-HUNDRED-AND-SIXTIETHdQUARTERdSIXTEENTH-1e2dSIXTY-FOURTHdTENTH
dTHIRTY-SECONDdTHREE-HUNDRED-AND-TWENTIETHdTWENTIETHcTHREE EIGHTIETHSdQUARTERSdSIXTEENTHS
dSIXTY-FOURTHSdTWENTIETHSbIN POSSESSION SIGNbLAND SIGNbLETTER AcAAcAIcAUcCAcEcEEcHAcIcIIcJAcKAcLA
cLLAcLLLAcMAcNAcNGAcNNAcNNNAcNYAcOcOOcPAcRAcRRAcSAcSHAcSSAcTAcTTAcUcUUcVAcYAbMONTH SIGN
bNUMBER ONE HUNDREDdTHOUSANDcSIGNcTENbOMbPUNCTUATION END OF TEXTbRUPEE SIGNbSALT PAN SIGN
bSIGN AAZHAAKKUcANUSVARAcCEVITUcKAACUcKURUNIcKUZHIcMUKKURUNIcMUTHALIYAcMUUVUZHAKKUcNELcPAARAMcPANAM
cPATHAKKUcPONcUZHAKKUcVAKAIYARAAcVARAAKANcVELIcVIRAMAcVISARGAbSPENT SIGNbSTARTING FROM SIGN
bTOTAL SIGNbTRADITIONAL CREDIT SIGNcNUMBER SIGNbVOWEL SIGN AAdAIdAUdEdEEdIdIIdOdOOdUdUU
bWET CULTIVATION SIGNbYEAR SIGNaTANABATA TREEaTANGERINEaTANGSA DIGIT EIGHTcFIVEcFOURcNINEcONEcSEVEN
cSIXcTHREEcTWOcZERObLETTER ACcAQcAWCcAWQcAWXcAWZcAXcAZcBAcCAcCHAcDAcDHAcECcEQcEXcEZcFAcFINAL NGcGA
cGHAcHAcHTAcHTTAcICcIQcIXcIZcKAcKHAcLAcLONG UEXcMAcMCcMQcMXcMZcNAcNGAcNHAcNYAcOCcOQcOXcOZcPAcPHAcRA
cSAcSHAcSHORT AWXdUEZcTAcTHAcTSAcUCcUECcUEQcUEXcUEZcUICcUIQcUIUCcUIUQcUIUXcUIUZcUIXcUIZcUQcUXcUZcVC
cVQcVXcVZcWAcXAcYAcZAaTANGUT COMPONENT-001c002c003c004c005c006c007c008c009c010c011c012c013c014c015
c016c017c018c019c020c021c022c023c024c025c026c027c028c029c030c031c032c033c034c035c036c037c038c039c040
c041c042c043c044c045c046c047c048c049c050c051c052c053c054c055c056c057c058c059c060c061c062c063c064c065
c066c067c068c069c070c071c072c073c074c075c076c077c078c079c080c081c082c083c084c085c086c087c088c089c090
c091c092c093c094c095c096c097c098c099c100c101c102c103c104c105c106c107c108c109c110c111c112c113c114c115
c116c117c118c119c120c121c122c123c124c125c126c127c128c129c130c131c132c133c134c135c136c137c138c139c140
c141c142c143c144c145c146c147c148c149c150c151c152c153c154c155c156c157c158c159c160c161c162c163c164c165
c166c167c168c169c170c171c172c173c174c175c176c177c178c179c180c181c182c183c184c185c186c187c188c189c190
c191c192c193c194c195c196c197c198c199c200c201c202c203c204c205c206c207c208c209c210c211c212c213c214c215
c216c217c218c219c220c221c222c223c224c225c226c227c228c229c230c231c232c233c234c235c236c237c238c239c240
c241c242c243c244c245c246c247c248c249c250c251c252c253c254c255c256c257c258c259c260c261c262c263c264c265
c266c267c268c269c270c271c272c273c274c275c276c277c278c279c280c281c282c283c284c285c286c287c288c289c290
c291c292c293c294c295c296c297c298c299c300c301c302c303c304c305c306c307c308c309c310c311c312c313c314c315
c316c317c318c319c320c321c322c323c324c325c326c327c328c329c330c331c332c333c334c335c336c337c338c339c340
c341c342c343c344c345c346c347c348c349c350c351c352c353c354c355c356c357c358c359c360c361c362c363c364c365
c366c367c368c369c370c371c372c373c374c375c376c377c378c379c380c381c382c383c384c385c386c387c388c389c390
c391c392c393c394c395c396c397c398c399c400c401c402c403c404c405c406c407c408c409c410c411c412c413c414c415
c416c417c418c419c420c421c422c423c424c425c426c427c428c429c430c431c432c433c434c435c436c437c438c439c440
c441c442c443c444c445c446c447c448c449c450c451c452c453c454c455c456c457c458c459c460c461c462c463c464c465
c466c467c468c469c470c471c472c473c474c475c476c477c478c479c480c481c482c483c484c485c486c487c488c489c490
c491c492c493c494c495c496c497c498c499c500c501c502c503c504c505c506c507c508c509c510c511c512c513c514c515
c516c517c518c519c520c521c522c523c524c525c526c527c528c529c530c531c532c533c534c535c536c537c538c539c540
c541c542c543c544c545c546c547c548c549c550c551c552c553c554c555c556c557c558c559c560c561c562c563c564c565
c566c567c568c569c570c571c572c573c574c575c576c577c578c579c580c581c582c583c584c585c586c587c588c589c590
c591c592c593c594c595c596c597c598c599c600c601c602c603c604c605c606c607c608c609c610c611c612c613c614c615
c616c617c618c619c620c621c622c623c624c625c626c627c628c629c630c631c632c633c634c635c636c637c638c639c640
c641c642c643c644c645c646c647c648c649c650c651c652c653c654c655c656c657c658c659c660c661c662c663c664c665
c666c667c668c669c670c671c672c673c674c675c676c677c678c679c680c681c682c683c684c685c686c687c688c689c690
c691c692c693c694c695c696c697c698c699c700c701c702c703c704c705c706c707c708c709c710c711c712c713c714c715
c716c717c718c719c720c721c722c723c724c725c726c727c728c729c730c731c732c733c734c735c736c737c738c739c740
c741c742c743c744c745c746c747c748c749c750c751c752c753c754c755c756c757c758c759c760c761c762c763c764c765
c766c767c768bITERATION MARKaTAPE CARTRIDGEbDRIVEaTAURUSaTAXIaTEACUP WITHOUT HANDLEaTEAPOT
aTEAR-OFF CALENDARaTEARDROP-BARBED RIGHTWARDS ARROWbSPOKED ASTERISKaTEDDY BEAR
aTELEPHONE LOCATION SIGNbON TOP OF MODEMbRECEIVERbRECEIVER WITH PAGEbRECORDERbSIGNaTELESCOPE
aTELEVISIONaTELUGU AI LENGTH MARKbDIGIT EIGHTcFIVEcFOURcNINEcONEcSEVENcSIXcTHREEcTWOcZERO
bFRACTION DIGIT ONE FOR EVEN POWERS OF FOURfODD POWERS OF FOURdTHREE FOR EVEN POWERS OF FOUR
fODD POWERS OF FOURdTWO FOR EVEN POWERS OF FOURfODD POWERS OF FOURdZERO FOR ODD POWERS OF FOUR
bLENGTH MARKbLETTER AcAAcAIcAUcBAcBHAcCAcCHAcDAcDDAcDDHAcDHAcDZAcEcEEcGAcGHAcHAcIcIIcJAcJHAcKAcKHA
cLAcLLAcLLLAcMAcNAcNAKAARA POLLUcNGAcNNAcNYAcOcOOcPAcPHAcRAcRRAcRRRAcSAcSHAcSSAcTAcTHAcTSAcTTAcTTHA
cUcUUcVAcVOCALIC LdLLdRdRRcYAbSIGN ANUSVARAcAVAGRAHAcCANDRABINDUcCOMBINING ANUSVARA ABOVE
dCANDRABINDU ABOVEcNUKTAcSIDDHAMcTUUMUcVIRAMAcVISARGAbVOWEL SIGN AAdAIdAUdEdEEdIdIIdOdOOdUdUU
dVOCALIC LeLLeReRRaTENGE SIGNaTENNIS RACQUET AND BALLaTENTaTEST TUBEaTETRAGRAM FOR ACCUMULATION
cADVANCEcAGGRAVATIONcASCENTcBARRIERcBOLD RESOLUTIONcBRANCHING OUTcCENTREcCHANGEcCLOSED MOUTH
cCLOSENESScCLOSUREcCOMPLETIONcCOMPLIANCEcCONSTANCYcCONTACTcCONTENTIONcCONTRARIETYcDARKENING
cDECISIVENESScDEFECTIVENESS OR DISTORTIONcDEPARTUREcDIFFICULTIEScDIMINISHMENTcDIMMINGcDIVERGENCE
cDOUBTcDUTIEScEASEcEMBELLISHMENTcENCOUNTERScENDEAVOURcENLARGEMENTcETERNITYcEXHAUSTIONcFAILUREcFLIGHT
cFOLLOWINGcFOSTERINGcFULL CIRCLEcFULLNESScGATHERINGcGATHERING INcGOING TO MEETcGREATNESScGUARDEDNESS
cHARDNESScHOLDING BACKcINCREASEcINNERcJOYcKEEPING SMALLcKINSHIPcLABOURINGcLAW OR MODELcLEGION
cMASSINGcMEASUREcMIREDcON THE VERGEcOPPOSITIONcPACKINGcPATTERNcPENETRATIONcPURITYcREACHcRELEASE
cRESIDENCEcRESISTANCEcRESPONSEcRITUALcSEVERANCEcSINKINGcSTOPPAGEcSTOVEcSTRENGTHcUNITY
cVASTNESS OR WASTINGcWAITINGcWATCHcYOUTHFULNESSaTHAANA AABAAFILIbABAFILIbEBEFILIbEEBEEFILIbEYBEYFILI
bIBIFILIbLETTER AINUcALIFUcBAAcCHAVIYANIcDAADHUcDAVIYANIcDHAALUcFAAFUcGAAFUcGHAINUcGNAVIYANIcHAA
cHHAAcJAVIYANIcKAAFUcKHAAcLAAMUcLHAVIYANIcMEEMUcNAAcNOONUcPAVIYANIcQAAFUcRAAcSAADHUcSEENUcSHAVIYANI
cSHEENUcTAVIYANIcTHAAcTHAALUcTOcTTAAcVAAVUcWAAVUcYAAcZAAcZAVIYANIcZObOABOAFILIbOBOFILIbOOBOOFILI
bSUKUNbUBUFILIaTHAI CHARACTER ANGKHANKHUcBO BAIMAIcCHO CHANdCHANGdCHINGdCHOEcDO CHADAdDEKcFO FAdFAN
cFONGMANcHO HIPdNOKHUKcKHO KHAIdKHONdKHUATdKHWAIdRAKHANGcKHOMUTcKO KAIcLAKKHANGYAOcLO CHULAdLINGcLU
cMAI CHATTAWAdEKdHAN-AKATdTHOdTRIcMAITAIKHUcMAIYAMOKcMO MAcNGO NGUcNIKHAHITcNO NENdNUcO ANG
cPAIYANNOIcPHINTHUcPHO PHANdPHUNGdSAMPHAOcPO PLAcRO RUAcRUcSARA AdAAdAEdAI MAIMALAIeMAIMUANdAMdEdI
dIIdOdUdUEdUEEdUUcSO RUSIdSALAdSOdSUAcTHANTHAKHATcTHO NANGMONTHOdPHUTHAOdTHAHANdTHANdTHONGdTHUNG
cTO PATAKdTAOcWO WAENcYAMAKKANcYO YAKdYINGbCURRENCY SYMBOL BAHTbDIGIT EIGHTcFIVEcFOURcNINEcONEcSEVEN
cSIXcTHREEcTWOcZEROaTHERE DOES NOT EXISTbEXISTSaTHEREFOREaTHERMODYNAMICaTHERMOMETERaTHIN GREEK CROSS
bSALTIREbSPACEaTHINKING FACEaTHIRD PLACE MEDALaTHONG SANDALaTHOUGHT BALLOONaTHREE BUTTON MOUSE
bCONSECUTIVE EQUALS SIGNSbDIMENSIONAL ANGLEbDOT PUNCTUATIONbLEFTWARDS ARROWSbLINES CONVERGING LEFT
dRIGHTbNETWORKED COMPUTERSbPOINTED BLACK STARbRAYS ABOVEcBELOWcLEFTcRIGHTbRIGHTWARDS ARROWS
bSPEECH BUBBLESaTHREE-D BOTTOM-LIGHTED RIGHTWARDS ARROWHEAD
cLEFT-LIGHTED DOWNWARDS EQUILATERAL ARROWHEADcRIGHT-LIGHTED UPWARDS EQUILATERAL ARROWHEAD
cTOP-LIGHTED LEFTWARDS EQUILATERAL ARROWHEADeRIGHTWARDS ARROWHEADfEQUILATERAL ARROWHEADbEM DASH
bPER-EM SPACEaTHUMBS DOWN SIGNbUP SIGNaTHUNDER CLOUD AND RAINaTHUNDERSTORM
aTIBETAN ASTROLOGICAL SIGN -KHYUD PAdSDONG TSHUGSdSGRA GCAN -CHAR RTAGSbCANTILLATION SIGN CANG TE-U
dHEAVY BEATdLIGHT BEATdSBUB -CHALbDIGIT EIGHTcFIVEcFOURcHALF EIGHTdFIVEdFOURdNINEdONEdSEVENdSIX
dTHREEdTWOdZEROcNINEcONEcSEVENcSIXcTHREEcTWOcZERObKU RU KHAdKHA BZHI MIG CANbLETTER -AcAcBAcBHAcCA
cCHAcDAcDDAcDDHAcDHAcDZAcDZHAcFIXED-FORM RAcGAcGHAcHAcJAcKAcKHAcKKAcKSSAcLAcMAcNAcNGAcNNAcNYAcPAcPHA
cRAcRRAcSAcSHAcSSAcTAcTHAcTSAcTSHAcTTAcTTHAcWAcYAcZAcZHAbLOGOTYPE SIGN CHAD RTAGSdLHAG RTAGS
bMARK ANG KHANG GYASeGYONcBKA- SHOG GI MGO RGYANfYIG MGOcBSDUS RTAGScBSKA- SHOG GI MGO RGYAN
cBSKUR YIG MGOcCARET -DZUD RTAGS BZHI MIG CANgME LONG CANdYIG MGO PHUR SHAD MAcCHE MGO
cCLOSING BRDA RNYING YIG MGO SGAB MAdYIG MGO SGAB MAcDELIMITER TSHEG BSTARcGTER TSHEG
dYIG MGO -UM GTER TSHEG MAhRNAM BCAD MAfTRUNCATED AcGUG RTAGS GYASeGYONcHALANTA
cINITIAL BRDA RNYING YIG MGO MDUN MAdYIG MGO MDUN MAcINTERSYLLABIC TSHEGcLEADING MCHAN RTAGS
cMNYAM YIG GI MGO RGYANcNGAS BZUNG NYI ZLAeSGOR RTAGScNYIS SHADdTSHEGdTSHEG SHADcPALUTA
cRGYA GRAM SHADcRIN CHEN SPUNGS SHADcSBRUL SHADcSHADcTRAILING MCHAN RTAGScTSA -PHRUcTSHEG SHAD
cYIG MGO TSHEG SHAD MAbSIGN GRU CAN RGYINGSdMED RGYINGScINVERTED MCHU CANcLCE TSA CANcLCI RTAGS
cMAR TSHEScMCHU CANcNYI ZLA NAA DAcRDEL DKAR GCIGeGNYISeGSUMeRDEL NAGdNAG GCIGeGNYISeGSUMeRDEL DKAR
cRJES SU NGA ROcRNAM BCADcSNA LDANcYANG RTAGScYAR TSHESbSUBJOINED LETTER -AdAdBAdBHAdCAdCHAdDAdDDA
dDDHAdDHAdDZAdDZHAdFIXED-FORM RAfWAfYAdGAdGHAdHAdJAdKAdKHAdKSSAdLAdMAdNAdNGAdNNAdNYAdPAdPHAdRAdSA
dSHAdSSAdTAdTHAdTSAdTSHAdTTAdTTHAdWAdYAdZAdZHAcSIGN INVERTED MCHU CANdLCE TSA CANdMCHU CAN
bSYLLABLE OMbSYMBOL DRIL BUcNOR BUdBU BZHI -KHYILeGSUM -KHYILeNYIS -KHYILcPADMA GDANcPHUR PAcRDO RJE
dRJE RGYA GRAMbVOWEL SIGN AAdEdEEdIdIIdOdOOdREVERSED IeIIdUdUUdVOCALIC LeLLeReRRaTICKET
aTIE OVER INFINITYaTIFINAGH CONSONANT JOINERbLETTER AHAGGAR YAZHcAYER YAGHcBERBER ACADEMY YAHeYAJ
cTAWELLEMET YAZcTUAREG YAGHdYAGNdYAHdYAKdYAKHdYANGdYAQdYAZHcYAcYAAcYABcYABHcYACHcYADcYADDcYADDHcYADH
cYAFcYAGcYAGHcYAGHHcYAHcYAHHcYAJcYAKcYAKHcYAKHHcYALcYAMcYANcYAPcYAQcYARcYARRcYAScYASHcYASScYATcYATH
cYATTcYAVcYAWcYAYcYAZcYAZHcYAZZcYEcYEYcYIcYOcYUbMODIFIER LETTER LABIALIZATION MARKbSEPARATOR MARK
aTIGERaTIGER FACEaTIGHT TRIFOLIATE SNOWFLAKEaTILDEaTILDE OPERATORbOPERATOR ABOVE LEFTWARDS ARROW
dRIGHTWARDS ARROWcWITH DOT ABOVEdRISING DOTSbWITH DOT ABOVEdBELOWcRING ABOVEaTIMER CLOCK
aTIMES WITH LEFT HALF BLACKcRIGHT HALF BLACKaTINYaTINY TWO DOTS OVER ONE DOT PUNCTUATIONaTIRED FACE
aTIRHUTA ABBREVIATION SIGNbANJIbDIGIT EIGHTcFIVEcFOURcNINEcONEcSEVENcSIXcTHREEcTWOcZERObGVANG
bLETTER AcAAcAIcAUcBAcBHAcCAcCHAcDAcDDAcDDHAcDHAcEcGAcGHAcHAcIcIIcJAcJHAcKAcKHAcLAcMAcNAcNGAcNNAcNYA
cOcPAcPHAcRAcSAcSHAcSSAcTAcTHAcTTAcTTHAcUcUUcVAcVOCALIC LdLLdRdRRcYAbOMbSIGN ANUSVARAcAVAGRAHA
cCANDRABINDUcNUKTAcVIRAMAcVISARGAbVOWEL SIGN AAdAIdAUdEdIdIIdOdSHORT EeOdUdUUdVOCALIC LeLLeReRR
aTIRONIAN SIGN CAPITAL ETcETaTOILETaTOKYO TOWERaTOMATOaTONGUEaTOOLBOXaTOOTHaTOOTHBRUSH
aTOP ARC ANTICLOCKWISE ARROWdARROW WITH PLUScCLOCKWISE ARROW WITH MINUSbCURLY BRACKET
bHALF BLACK CIRCLEcINTEGRALcLEFT PARENTHESIScRIGHT PARENTHESIScSECTION SIGNbHATbLEFT CORNERcCROP
cHALF BRACKETbPARENTHESISbRIGHT CORNERcCROPcHALF BRACKETbSQUARE BRACKETbTORTOISE SHELL BRACKET
bWITH UPWARDS ARROW ABOVEaTORTOISE SHELL BRACKETED CJK UNIFIED IDEOGRAPH-4E09g4E8Cg52DDg5B89g6253
g6557g672Cg70B9g76D7dLATIN CAPITAL LETTER SaTOTAL RUNOUTaTOTO LETTER AcAEcBAcBREATHY AEdEdEOdIdIU
cCHAcDAcEcEOcGAcHAcIcIUcJAcKAcLAcMAcNAcNGAcOcPAcRAcSAcTAcUcWAcYAbSIGN RISING TONEaTRACKBALLaTRACTOR
aTRADE MARK SIGNaTRAINaTRAMaTRAM CARaTRANSPLUTOaTRANSVERSAL INTERSECTIONaTRIANGLE WITH DOT ABOVE
cROUNDED CORNERScSERIFS AT BOTTOMcUNDERBARaTRIANGLE-HEADED RIGHTWARDS ARROWaTRIANGULAR BULLET
bFLAG ON POSTbRULERaTRICOLONaTRIDENT EMBLEMaTRIGRAM FOR EARTHcFIREcHEAVENcLAKEcMOUNTAINcTHUNDER
cWATERcWINDaTRIPLE COLON OPERATORbDAGGERbHORIZONTAL BAR WITH DOUBLE VERTICAL STROKE
eTRIPLE VERTICAL STROKEbINTEGRALbNESTED GREATER-THANcLESS-THANbPLUSbPRIMEbSOLIDUS BINARY RELATION
bTILDEbVERTICAL BAR BINARY RELATIONdDELIMITERdRIGHT TURNSTILEdWITH HORIZONTAL STROKEaTROLL
aTROLLEYBUSaTROPHYaTROPICAL DRINKbFISHaTRUEaTRUE LIGHT MOON ARTAaTRUMPETaTUGRIK SIGNaTULIP
aTUMBLER GLASSaTURKEYaTURKISH LIRA SIGNaTURNED AMPERSANDbANGLEbBLACK PENTAGONcSHOGI PIECEbCAPITAL F
bCOMMAbDAGGERbDIGIT THREEcTWObGREEK SMALL LETTER IOTAbNORTH EAST POINTING LEAFcWEST POINTING LEAF
bNOT SIGNbOK HAND SIGNbSANS-SERIF CAPITAL GeLeYbSEMICOLONbSMALL FbSOUTH EAST POINTING LEAF
cWEST POINTING LEAFbWHITE SHOGI PIECEaTURTLEaTWELVE POINTED BLACK STARaTWISTED RIGHTWARDS ARROWS
aTWO ASTERISKS ALIGNED VERTICALLYbBUTTON MOUSEbCONSECUTIVE EQUALS SIGNSbDOT LEADERcPUNCTUATION
bDOTS OVER ONE DOT PUNCTUATIONbHEARTSbINTERSECTING LOGICAL ANDdORbJOINED SQUARES
bLOGICAL AND OPERATORcOR OPERATORbMEN HOLDING HANDSbSPEECH BUBBLESbWOMEN HOLDING HANDSaTWO-EM DASH
aUGARITIC LETTER AINcALPAcBETAcDELTAcDHALcGAMLAcGHAINcHOcHOTAcIcKAFcKHAcLAMDAcMEMcNUNcPUcQOPAcRASHA
cSADEcSAMKAcSHINcSSUcTETcTHANNAcTOcUcWOcYODcZETAcZUbWORD DIVIDERaUMBRELLAaUMBRELLA ON GROUND
bWITH RAIN DROPSaUNAMUSED FACEaUNCERTAINTY SIGNaUNDERTIEaUNDO SYMBOLaUNICORN FACEaUNION
aUNION ABOVE BAR ABOVE INTERSECTIONcINTERSECTIONbBESIDE AND JOINED WITH UNIONbWITH LOGICAL OR
cMINUS SIGNcOVERBARaUNIT SEPARATORaUNITED SYMBOLaUNIVERSAL RECYCLING SYMBOL
aUNMARRIED PARTNERSHIP SYMBOLaUP ARROW THROUGH CIRCLEbARROWHEAD
bARROWHEAD BETWEEN TWO HORIZONTAL BARScIN A RECTANGLE BOXbBARB LEFT DOWN BARB LEFT HARPOON
fRIGHT HARPOONcRIGHT DOWN BARB LEFT HARPOONfRIGHT HARPOONbDOWN ARROWcARROW WITH BASEcBLACK ARROW
cDOUBLE ARROWcSANS-SERIF ARROWcTRIANGLE-HEADED ARROWcWHITE ARROWbFISH TAILbRIGHT DIAGONAL ELLIPSIS
bTACKbTACK WITH CIRCLE ABOVEaUP-POINTING AIRPLANEcMILITARY AIRPLANEcRED TRIANGLEcSMALL AIRPLANE
dRED TRIANGLEcTRIANGLE WITH LEFT HALF BLACKeRIGHT HALF BLACK
aUPPER AND LEFT AND LOWER TRIANGULAR THREE QUARTERS BLOCKcLOWER ONE EIGHTH BLOCK
dTRIANGULAR HALF BLOCKcRIGHT AND LOWER TRIANGULAR THREE QUARTERS BLOCKbBLADE SCISSORS
bFIVE EIGHTHS BLOCKbHALF BLOCKcBLOCK AND LOWER HALF INVERSE MEDIUM SHADEcCIRCLE
cINVERSE MEDIUM SHADE AND LOWER HALF BLOCKdWHITE CIRCLEcMEDIUM SHADE
bLEFT BLOCK DIAGONAL LOWER CENTRE TO LOWER MIDDLE RIGHThUPPER MIDDLE RIGHTiRIGHT
fLEFT TO LOWER MIDDLE RIGHThUPPER CENTREiMIDDLE RIGHTfMIDDLE LEFT TO UPPER CENTREjMIDDLE RIGHTjRIGHT
eUPPER MIDDLE LEFT TO UPPER CENTREjRIGHTcCORNER WITH DOTcOR LOWER RIGHT CURLY BRACKET SECTION
cQUADRANT CIRCULAR ARCcTO LOWER RIGHT FILLcTRIANGLEcTRIANGULAR MEDIUM SHADEbONE EIGHTH BLOCK
cQUARTER BLOCKbRIGHT BLOCK DIAGONAL LOWER MIDDLE LEFT TO LOWER CENTREjRIGHT
eUPPER CENTRE TO LOWER MIDDLE RIGHTiRIGHThUPPER MIDDLE RIGHTfLEFT TO LOWER CENTREiMIDDLE RIGHT
hUPPER MIDDLE RIGHTfMIDDLE LEFT TO LOWER CENTREjMIDDLE RIGHTjRIGHTcDROP-SHADOWED WHITE SQUARE
cOR LOWER LEFT CURLY BRACKET SECTIONcPENCILcQUADRANT CIRCULAR ARCcSHADOWED WHITE CIRCLEeSQUARE
cTO LOWER LEFT FILLcTRIANGLEcTRIANGULAR MEDIUM SHADEbSEVEN EIGHTHS BLOCKbTHREE EIGHTHS BLOCK
cQUARTERS BLOCKbTRIANGULAR ONE QUARTER BLOCKaUPSIDE-DOWN FACEaUPWARDS ANCORAbARROW
bARROW AND RIGHT ONE EIGHTH BLOCKcFROM BARcLEFTWARDS OF DOWNWARDS ARROWcTO BARcWITH DOUBLE STROKE
dEQUILATERAL ARROWHEADdHORIZONTAL STROKEdLARGE TRIANGLE ARROWHEADdMEDIUM TRIANGLE ARROWHEAD
dNOTCHED TAILdSMALL EQUILATERAL ARROWHEADeTRIANGLE ARROWHEADdTIP LEFTWARDSeRIGHTWARDSbBLACK ARROW
cCIRCLED WHITE ARROWbCOMPRESSED ARROWbDASHED ARROWbDOUBLE ARROWbFINGER-POST ARROW
bHARPOON WITH BARB LEFT BESIDE DOWNWARDS HARPOON WITH BARB RIGHTgUPWARDS HARPOON WITH BARB RIGHT
fFROM BARfTO BAReLEFTWARDSeRIGHT FROM BARfTO BAReRIGHTWARDSbHEAVY ARROWcCOMPRESSED ARROW
bPAIRED ARROWSbQUADRUPLE ARROWbROCKETbSANS-SERIF ARROWbSQUARED ARROWbTRIANGLE ARROWHEAD
bTRIANGLE-HEADED ARROWdARROW LEFTWARDS OF DOWNWARDS TRIANGLE-HEADED ARROWeTO BAReWITH BOLD SHAFT
fDOUBLE HORIZONTAL STROKEfHEAVY SHAFTfLONG TIP LEFTWARDShRIGHTWARDSfMEDIUM SHAFTfNARROW SHAFT
fVERY HEAVY SHAFTdDASHED ARROWdPAIRED ARROWSbTRIPLE ARROWbTWO HEADED ARROW
bTWO-HEADED ARROW FROM SMALL CIRCLEeWITH TRIANGLE ARROWHEADSbWHITE ARROWcARROW FROM BAR
eBAR WITH HORIZONTAL BARdON PEDESTALePEDESTAL WITH HORIZONTAL BARgVERTICAL BAR
dWITHIN TRIANGLE ARROWHEADcDOUBLE ARROWdARROW ON PEDESTALaURANUSaUSaVAI COMMAbDIGIT EIGHTcFIVEcFOUR
cNINEcONEcSEVENcSIXcTHREEcTWOcZERObFULL STOPbQUESTION MARKbSYLLABLE AcANcBAcBEcBEEcBHAcBHEcBHEEcBHI
cBHOcBHOOcBHUcBIcBOcBOOcBUcCAcCEcCEEcCIcCOcCOOcCUcDAcDEcDEEcDHAcDHEcDHEEcDHHAcDHHEcDHHEEcDHHIcDHHO
cDHHOOcDHHUcDHIcDHOcDHOOcDHUcDIcDOcDOOcDUcEcEEcEENcENcFAcFEcFEEcFIcFOcFOOcFUcGAcGBAcGBEcGBEEcGBEN
cGBIcGBOcGBONcGBOOcGBUcGEcGEEcGENcGIcGOcGOOcGUcHAcHANcHEcHEEcHENcHIcHINcHOcHONcHOOcHUcHUNcIcINcJAcJE
cJEEcJIcJOcJOOcJUcKAcKANcKEcKEEcKIcKOcKOOcKPAcKPANcKPEcKPEEcKPENcKPIcKPOcKPOOcKPUcKUcLAcLEcLEE
cLENGTHENERcLIcLOcLOOcLUcMAcMBAcMBEcMBEEcMBIcMBOcMBOOcMBUcMEcMEEcMGBAcMGBEcMGBEEcMGBIcMGBOcMGBOO
cMGBUcMIcMOcMOOcMUcNAcNDAcNDEcNDEEcNDIcNDOcNDOLE DOdFAdKAdMAdSOOcNDOOcNDUcNEcNEEcNGcNGANcNGENcNGGA
cNGGEcNGGEEcNGGENcNGGIcNGGOcNGGOOcNGGUcNGONcNIcNJAcNJEcNJEEcNJIcNJOcNJOOcNJUcNOcNOOcNUcNYAcNYEcNYEE
cNYIcNYOcNYOOcNYUcOcONcOOcOONcPAcPEcPEEcPIcPOcPOOcPUcRAcREcREEcRIcROcROOcRUcSAcSEcSEEcSHAcSHEcSHEE
cSHIcSHOcSHOOcSHUcSIcSOcSOOcSUcTAcTEcTEEcTHAcTHEcTHEEcTHIcTHOcTHOOcTHUcTIcTOcTOOcTUcUcUNcVAcVEcVEE
cVIcVOcVOOcVUcWAcWANcWEcWEEcWEENcWENcWIcWINcWOcWONcWOOcWOONcWUcWUNcYAcYEcYEEcYIcYOcYOOcYUcZAcZEcZEE
cZHAcZHEcZHEEcZHIcZHOcZHOOcZHUcZIcZOcZOOcZUbSYMBOL BANGcDANGcDO-OcDOONGcFAAcFEENGcJONGcKEENGcKUNG
cNIIcTAAcTINGcTONGaVAMPIREaVARIATION SELECTOR-1c10c100c101c102c103c104c105c106c107c108c109c11c110
c111c112c113c114c115c116c117c118c119c12c120c121c122c123c124c125c126c127c128c129c13c130c131c132c133
c134c135c136c137c138c139c14c140c141c142c143c144c145c146c147c148c149c15c150c151c152c153c154c155c156
c157c158c159c16c160c161c162c163c164c165c166c167c168c169c17c170c171c172c173c174c175c176c177c178c179
c18c180c181c182c183c184c185c186c187c188c189c19c190c191c192c193c194c195c196c197c198c199c2c20c200c201
c202c203c204c205c206c207c208c209c21c210c211c212c213c214c215c216c217c218c219c22c220c221c222c223c224
c225c226c227c228c229c23c230c231c232c233c234c235c236c237c238c239c24c240c241c242c243c244c245c246c247
c248c249c25c250c251c252c253c254c255c256c26c27c28c29c3c30c31c32c33c34c35c36c37c38c39c4c40c41c42c43c44
c45c46c47c48c49c5c50c51c52c53c54c55c56c57c58c59c6c60c61c62c63c64c65c66c67c68c69c7c70c71c72c73c74c75
c76c77c78c79c8c80c81c82c83c84c85c86c87c88c89c9c90c91c92c93c94c95c96c97c98c99aVECTOR OR CROSS PRODUCT
aVEDIC SIGN ANUSVARA ANTARGOMUKHAdBAHIRGOMUKHAdUBHAYATO MUKHAdVAMAGOMUKHAdVAMAGOMUKHA WITH TAIL
cARDHAVISARGAcATIKRAMAcDOUBLE ANUSVARA ANTARGOMUKHAcHEXIFORM LONG ANUSVARAcJIHVAMULIYAcLONG ANUSVARA
cNIHSHVASAcREVERSED VISARGA ANUDATTAeUDATTAcROTATED ARDHAVISARGAcRTHANG LONG ANUSVARAcTIRYAK
cUPADHMANIYAcVISARGA ANUDATTAdANUDATTA WITH TAILdSVARITAdUDATTAdUDATTA WITH TAIL
cYAJURVEDIC MIDLINE SVARITAbTONE ATHARVAVEDIC INDEPENDENT SVARITAcCANDRA ABOVEdBELOWcDOT BELOW
cDOUBLE RING ABOVEdSVARITAcKARSHANAcKATHAKA ANUDATTAcPRENKHAcRIGVEDIC KASHMIRI INDEPENDENT SVARITA
cRING ABOVEcSHARAcTHREE DOTS BELOWcTRIPLE SVARITAcTWO DOTS BELOW
cYAJURVEDIC AGGRAVATED INDEPENDENT SVARITAdINDEPENDENT SVARITAdKATHAKA INDEPENDENT SVARITA
fSVARITA SCHROEDERaVERSICLEaVERTICAL BAR BESIDE RIGHT TRIANGLEcDOUBLE LEFT TURNSTILE
cTRIPLE RIGHT TURNSTILEcWITH HORIZONTAL STROKEbELLIPSISbFOUR DOTSbIDEOGRAPHIC ITERATION MARK
bKANA REPEAT MARKdMARK LOWER HALFeUPPER HALFdWITH VOICED SOUND MARKgMARK UPPER HALFbLINE
bLINE EXTENSIONcWITH CIRCLE ABOVEeBELOWdMIDDLE DOTbMALE WITH STROKE SIGNbONE EIGHTH BLOCK-2e3e4e5e6
e7bSIX DOTSbTAB KEYbTABULATIONbTABULATION SETbTILDEbTRAFFIC LIGHTbZIGZAG LINEaVERY BOLD GREEK CROSS
bHEAVY EIGHT POINTED BLACK STARdSPOKED ASTERISKcFIVE SPOKED ASTERISKcGREEK CROSScREVERSE SOLIDUS
cSALTIREcSIX SPOKED ASTERISKcSOLIDUScWHITE CIRCLEdSQUAREbMUCH GREATER-THANcLESS-THANaVESTA
aVIBRATION MODEaVICTORY HANDaVIDEO CAMERAbGAMEaVIDEOCASSETTEaVIETNAMESE ALTERNATE READING MARK CA
eNHAYaVIEWDATA SQUAREaVIOLINaVIRGOaVITHKUQI CAPITAL LETTER AdBBEdBEdCEdCHEdDEdDHEdEdEIdFEdGAdHAdHHA
dIdIJEdJEdKAdLAdLLAdMEdNEdNJEdOdPEdQAdREdSEdSHEdTEdTHEdUdVEdXEdYdZEbSMALL LETTER AdBBEdBEdCEdCHEdDE
dDHEdEdEIdFEdGAdHAdHHAdIdIJEdJEdKAdLAdLLAdMEdNEdNJEdOdPEdQAdREdSEdSHEdTEdTHEdUdVEdXEdYdZE
aVOIDED GREEK CROSSaVOLCANOaVOLLEYBALLaVOLUME INTEGRALaVS1aVS10aVS100aVS101aVS102aVS103aVS104aVS105
aVS106aVS107aVS108aVS109aVS11aVS110aVS111aVS112aVS113aVS114aVS115aVS116aVS117aVS118aVS119aVS12aVS120
aVS121aVS122aVS123aVS124aVS125aVS126aVS127aVS128aVS129aVS13aVS130aVS131aVS132aVS133aVS134aVS135
aVS136aVS137aVS138aVS139aVS14aVS140aVS141aVS142aVS143aVS144aVS145aVS146aVS147aVS148aVS149aVS15aVS150
aVS151aVS152aVS153aVS154aVS155aVS156aVS157aVS158aVS159aVS16aVS160aVS161aVS162aVS163aVS164aVS165
aVS166aVS167aVS168aVS169aVS17aVS170aVS171aVS172aVS173aVS174aVS175aVS176aVS177aVS178aVS179aVS18aVS180
aVS181aVS182aVS183aVS184aVS185aVS186aVS187aVS188aVS189aVS19aVS190aVS191aVS192aVS193aVS194aVS195
aVS196aVS197aVS198aVS199aVS2aVS20aVS200aVS201aVS202aVS203aVS204aVS205aVS206aVS207aVS208aVS209aVS21
aVS210aVS211aVS212aVS213aVS214aVS215aVS216aVS217aVS218aVS219aVS22aVS220aVS221aVS222aVS223aVS224
aVS225aVS226aVS227aVS228aVS229aVS23aVS230aVS231aVS232aVS233aVS234aVS235aVS236aVS237aVS238aVS239aVS24
aVS240aVS241aVS242aVS243aVS244aVS245aVS246aVS247aVS248aVS249aVS25aVS250aVS251aVS252aVS253aVS254
aVS255aVS256aVS26aVS27aVS28aVS29aVS3aVS30aVS31aVS32aVS33aVS34aVS35aVS36aVS37aVS38aVS39aVS4aVS40aVS41
aVS42aVS43aVS44aVS45aVS46aVS47aVS48aVS49aVS5aVS50aVS51aVS52aVS53aVS54aVS55aVS56aVS57aVS58aVS59aVS6
aVS60aVS61aVS62aVS63aVS64aVS65aVS66aVS67aVS68aVS69aVS7aVS70aVS71aVS72aVS73aVS74aVS75aVS76aVS77aVS78
aVS79aVS8aVS80aVS81aVS82aVS83aVS84aVS85aVS86aVS87aVS88aVS89aVS9aVS90aVS91aVS92aVS93aVS94aVS95aVS96
aVS97aVS98aVS99aVTaVTSaVULCANUSaVULGAR FRACTION FIVE EIGHTHSdSIXTHScFOUR FIFTHScONE EIGHTHdFIFTH
dHALFdNINTHdQUARTERdSEVENTHdSIXTHdTENTHdTHIRDcSEVEN EIGHTHScTHREE EIGHTHSdFIFTHSdQUARTERScTWO FIFTHS
dTHIRDScZERO THIRDSaWAFFLEaWANCHO DIGIT EIGHTcFIVEcFOURcNINEcONEcSEVENcSIXcTHREEcTWOcZERObLETTER A
cAAcAANcAANGcANGcAUcBAcCAcDAcEcENcFAcGAcHAcIcINGcJAcKAcKHAcLAcLLHAcMAcNAcNGAcNYAcOcONcONGcPAcPHAcRA
cSAcSHAcTAcTHAcTRAcTSAcUcUENcVAcWAcYAcYIHcZAbNGUN SIGNbTONE KOIcKOINIcTUPcTUPNI
aWANING CRESCENT MOON SYMBOLbGIBBOUS MOON SYMBOLaWARANG CITI CAPITAL LETTER AeAMeANGeATeBUeDAeEeENN
eENYeGAeHAReHIYOeHOLOeHORReIIeKOeNGAAeNUNGeOeODDePUeSIIeSSUUeTTEeUCeUUeVIYOeWIeYAeYOeYUeYUJ
cDIGIT EIGHTdFIVEdFOURdNINEdONEdSEVENdSIXdTHREEdTWOdZEROcNUMBER EIGHTYdFIFTYdFORTYdNINETYdSEVENTY
dSIXTYdTENdTHIRTYdTWENTYcOMcSMALL LETTER AeAMeANGeATeBUeDAeEeENNeENYeGAeHAReHIYOeHOLOeHORReIIeKO
eNGAAeNUNGeOeODDePUeSIIeSSUUeTTEeUCeUUeVIYOeWIeYAeYOeYUeYUJaWARNING SIGNaWASTEBASKETaWATCH
aWATER BUFFALObCLOSETbPOLObWAVEaWATERMELONaWAVE ARROW POINTING DIRECTLY LEFTeRIGHTbDASH
aWAVING BLACK FLAGbHAND SIGNbWHITE FLAGaWAVY DASHbLINEbLOW LINEbOVERLINEaWAXING CRESCENT MOON SYMBOL
bGIBBOUS MOON SYMBOLaWEARY CAT FACEbFACEaWEDDINGaWEDGE-TAILED RIGHTWARDS ARROW
aWEIERSTRASS ELLIPTIC FUNCTIONaWEIGHT LIFTERaWEST SYRIAC CROSSaWHALEaWHEELaWHEEL OF DHARMA
aWHEELCHAIR SYMBOLaWHITE ARROW SHAFT WIDTH ONEeTWO THIRDSbBULLETbCHESS BISHOP
cBISHOP ROTATED NINETY DEGREESeTWO HUNDRED SEVENTY DEGREEScEQUIHOPPER
cEQUIHOPPER ROTATED NINETY DEGREEScKINGcKING ROTATED NINETY DEGREESeTWO HUNDRED SEVENTY DEGREES
cKNIGHTcKNIGHT ROTATED FORTY-FIVE DEGREESeNINETY DEGREESeONE HUNDRED THIRTY-FIVE DEGREES
eTHREE HUNDRED FIFTEEN DEGREESeTWO HUNDRED SEVENTY DEGREESgTWENTY-FIVE DEGREEScKNIGHT-BISHOPdQUEEN
dROOKcPAWNcPAWN ROTATED NINETY DEGREESeTWO HUNDRED SEVENTY DEGREEScQUEEN
cQUEEN ROTATED NINETY DEGREESeTWO HUNDRED SEVENTY DEGREEScROOKcROOK ROTATED NINETY DEGREES
eTWO HUNDRED SEVENTY DEGREEScTURNED BISHOPdKINGdKNIGHTdPAWNdQUEENdROOKbCIRCLE
bCIRCLE CONTAINING BLACK SMALL CIRCLEcWITH DOT RIGHTdDOWN ARROWdLOWER LEFT QUADRANTeRIGHT QUADRANT
dTWO DOTSdUPPER LEFT QUADRANTeRIGHT QUADRANTbCLUB SUITbCONCAVE-SIDED DIAMOND
dDIAMOND WITH LEFTWARDS TICKfRIGHTWARDS TICKbDIAMONDbDIAMOND CONTAINING BLACK MEDIUM DIAMOND
eSMALL DIAMONDeVERY SMALL DIAMONDcIN SQUAREcSUITcWITH CENTRED DOTbDOWN POINTING BACKHAND INDEXdINDEX
dLEFT HAND INDEXbDOWN-POINTING SMALL TRIANGLEdTRIANGLEbDRAUGHTS KINGcMANbEXCLAMATION MARK ORNAMENT
bFLAGbFLAG WITH HORIZONTAL MIDDLE BLACK STRIPEbFLORETTEbFLOWERbFOUR POINTED CUSPdSTARbFROWNING FACE
bHARD SHELL FLOPPY DISKbHEARTbHEART SUITbHEAVY CHECK MARKcSALTIRE WITH ROUNDED CORNERSbHEXAGON
bHORIZONTAL ELLIPSEbHOURGLASSbLARGE SQUAREbLATIN CROSSbLEFT LANE MERGEcPOINTING BACKHAND INDEXdINDEX
bLEFT-POINTING POINTERdSMALL TRIANGLEdTRIANGLEbLOZENGE CONTAINING BLACK SMALL LOZENGEbMEDIUM DIAMOND
cLOZENGEcSMALL SQUAREcSQUAREcSTARbMOON SELENAbNIBbPARALLELOGRAMbPENNANTbPENTAGON
bQUESTION MARK ORNAMENTbRECTANGLEbRIGHT POINTING BACKHAND INDEXdINDEXbRIGHT-POINTING PENTAGON
dPOINTERdSMALL TRIANGLEdTRIANGLEbSCISSORSbSESAME DOTbSHOGI PIECEbSMALL LOZENGEcSQUAREcSTAR
bSMILING FACEbSPADE SUITbSQUAREbSQUARE BUTTONcCONTAINING BLACK MEDIUM SQUAREeSMALL SQUARE
eVERY SMALL SQUAREcWITH CENTRE VERTICAL LINEdLEFTWARDS TICKdLOWER LEFT QUADRANTeRIGHT QUADRANT
dRIGHTWARDS TICKdROUNDED CORNERSdUPPER LEFT QUADRANTeRIGHT QUADRANTdVERTICAL BISECTING LINEbSTARbSUN
bSUN BEHIND CLOUDdCLOUD WITH RAINcWITH RAYSdSMALL CLOUDbTELEPHONEbTOUCHTONE TELEPHONEbTRAPEZIUM
bTRIANGLE CONTAINING SMALL WHITE TRIANGLEbTWO-WAY LEFT WAY TRAFFICbUP POINTING BACKHAND INDEXdINDEX
bUP-POINTING CHEVRONdSMALL TRIANGLEdTRIANGLEdTRIANGLE WITH DOTbVERTICAL BARcELLIPSEcRECTANGLE
bVERY SMALL SQUAREaWHITE-FEATHERED RIGHTWARDS ARROWaWIDE-HEADED DOWNWARDS BARB ARROW
dHEAVY BARB ARROWdLIGHT BARB ARROWdMEDIUM BARB ARROWdVERY HEAVY BARB ARROWcLEFTWARDS BARB ARROW
dHEAVY BARB ARROWdLIGHT BARB ARROWdMEDIUM BARB ARROWdVERY HEAVY BARB ARROWcNORTH EAST BARB ARROW
eHEAVY BARB ARROWeLIGHT BARB ARROWeMEDIUM BARB ARROWeVERY HEAVY BARB ARROWdWEST BARB ARROW
eHEAVY BARB ARROWeLIGHT BARB ARROWeMEDIUM BARB ARROWeVERY HEAVY BARB ARROWcRIGHTWARDS BARB ARROW
dHEAVY BARB ARROWdLIGHT BARB ARROWdMEDIUM BARB ARROWdVERY HEAVY BARB ARROWcSOUTH EAST BARB ARROW
eHEAVY BARB ARROWeLIGHT BARB ARROWeMEDIUM BARB ARROWeVERY HEAVY BARB ARROWdWEST BARB ARROW
eHEAVY BARB ARROWeLIGHT BARB ARROWeMEDIUM BARB ARROWeVERY HEAVY BARB ARROWcUPWARDS BARB ARROW
dHEAVY BARB ARROWdLIGHT BARB ARROWdMEDIUM BARB ARROWdVERY HEAVY BARB ARROWaWIGGLY VERTICAL LINE
aWILTED FLOWERaWIND BLOWING FACEbCHIMEaWINDOWaWINE GLASSaWINKING FACEaWIRED KEYBOARDaWJaWOLF FACE
aWOMANaWOMAN WITH BUNNY EARSaWOMANS BOOTSbCLOTHESbHATbSANDALaWOMENS SYMBOLaWON SIGNaWOODaWORD JOINER
bSEPARATOR MIDDLE DOTaWORLD MAPaWORMaWORRIED FACEaWRAPPED PRESENTaWREATH PRODUCTaWRENCHaWRESTLERS
aWRITING HANDaX IN A RECTANGLE BOXaX-RAYaXIANGQI BLACK CANNONcCHARIOTcELEPHANTcGENERALcHORSE
cMANDARINcSOLDIERbRED CANNONcCHARIOTcELEPHANTcGENERALcHORSEcMANDARINcSOLDIERaXORaYAWNING FACE
aYELLOW HEARTaYEN SIGNaYEZIDI COMBINING HAMZA MARKcMADDA MARKbHYPHENATION MARKbLETTER BEcCHHIMcCHIM
cCIMcDADcDALcELIFcETcEWcEYNcFAcGAFcHAYcHHAcJAcKAFcKHAFcLAMcLAM WITH DOT ABOVEcMIMcNUNcOWcPEcPHEcQAF
cRAcRHAcSADcSEcSHINcSINcTAcTHEcUMcVAcVA ALTERNATE FORMcWAWcXAcXHEYNcYOTcYOT WITH CIRCUMFLEX ABOVEcZA
cZALcZEaYI RADICAL BBUTcBURcCHEcCIPcCUOPcCYcCYPcCYTcDDURcDUcGAcGEPcGGOPcGGUOcGOTcHMOcHXITcHXOPcHXUO
cJJIEcJJUTcJJYcJOcKEcKITcLIcLIEcLYRcMIcMOPcNBIEcNYIPcNYOPcNZUPcOPcPUTcPYTcQOTcSHATcSHOPcSHURcSHYcSSI
cTATcTUcVEPcVURcWOcYITcYOcZAcZOTcZUPcZURcZZIETbSYLLABLE AcAPcATcAXcBAcBAPcBATcBAXcBBAcBBAPcBBATcBBAX
cBBEcBBEPcBBEXcBBIcBBIEcBBIEPcBBIETcBBIEXcBBIPcBBITcBBIXcBBOcBBOPcBBOTcBBOXcBBUcBBUOcBBUOPcBBUOX
cBBUPcBBURcBBURXcBBUTcBBUXcBBYcBBYPcBBYTcBBYXcBEcBEPcBEXcBIcBIEcBIEPcBIETcBIEXcBIPcBITcBIXcBOcBOP
cBOTcBOXcBUcBUOcBUOPcBUOXcBUPcBURcBURXcBUTcBUXcBYcBYPcBYRcBYRXcBYTcBYXcCAcCAPcCATcCAXcCEcCEPcCEXcCHA
cCHAPcCHATcCHAXcCHEcCHEPcCHETcCHEXcCHOcCHOPcCHOTcCHOXcCHUcCHUOcCHUOPcCHUOTcCHUOXcCHUPcCHURcCHURX
cCHUXcCHYcCHYPcCHYRcCHYRXcCHYTcCHYXcCIcCIEcCIEPcCIETcCIEXcCIPcCITcCIXcCOcCOPcCOTcCOXcCUcCUOcCUOP
cCUOXcCUPcCURcCURXcCUTcCUXcCYcCYPcCYRcCYRXcCYTcCYXcDAcDAPcDATcDAXcDDAcDDAPcDDATcDDAXcDDEcDDEPcDDEX
cDDIcDDIEcDDIEPcDDIEXcDDIPcDDITcDDIXcDDOcDDOPcDDOTcDDOXcDDUcDDUOcDDUOPcDDUOXcDDUPcDDURcDDURXcDDUT
cDDUXcDEcDEPcDEXcDIcDIEcDIEPcDIEXcDIPcDITcDIXcDOcDOPcDOTcDOXcDUcDUOcDUOXcDUPcDURcDURXcDUTcDUXcEcEX
cFAcFAPcFATcFAXcFIcFIPcFITcFIXcFOcFOPcFOXcFUcFUPcFURcFURXcFUTcFUXcFYcFYPcFYTcFYXcGAcGAPcGATcGAXcGE
cGEPcGETcGEXcGGAcGGAPcGGATcGGAXcGGEcGGEPcGGETcGGEXcGGIcGGIEcGGIEPcGGIEXcGGITcGGIXcGGOcGGOPcGGOTcGGOX
cGGUcGGUOcGGUOPcGGUOTcGGUOXcGGUPcGGURcGGURXcGGUTcGGUXcGIcGIEcGIEPcGIETcGIEXcGIPcGITcGIXcGOcGOPcGOT
cGOXcGUcGUOcGUOPcGUOTcGUOXcGUPcGURcGURXcGUTcGUXcHAcHAPcHATcHAXcHEcHEPcHEXcHIEcHIEXcHITcHLAcHLAPcHLAT
cHLAXcHLEcHLEPcHLEXcHLIcHLIEcHLIEPcHLIEXcHLIPcHLITcHLIXcHLOcHLOPcHLOXcHLUcHLUOcHLUOPcHLUOXcHLUPcHLUR
cHLURXcHLUTcHLUXcHLYcHLYPcHLYRcHLYRXcHLYTcHLYXcHMAcHMAPcHMATcHMAXcHMIcHMIEcHMIEPcHMIEXcHMIPcHMIT
cHMIXcHMOcHMOPcHMOTcHMOXcHMUcHMUOcHMUOPcHMUOXcHMUPcHMURcHMURXcHMUTcHMUXcHMYcHMYPcHMYRcHMYRXcHMYXcHNA
cHNAPcHNATcHNAXcHNEcHNEPcHNEXcHNIcHNIEcHNIEPcHNIETcHNIEXcHNIPcHNITcHNIXcHNOPcHNOTcHNOXcHNUOcHNUOX
cHNUTcHOcHOPcHOTcHOXcHUOcHUOPcHUOTcHUOXcHXAcHXAPcHXATcHXAXcHXEcHXEPcHXEXcHXIcHXIEcHXIEPcHXIETcHXIEX
cHXIPcHXITcHXIXcHXOcHXOPcHXOTcHXOXcHXUOcHXUOPcHXUOTcHXUOXcIcIEcIEPcIETcIEXcIPcITcITERATION MARKcIX
cJIcJIEcJIEPcJIETcJIEXcJIPcJITcJIXcJJIcJJIEcJJIEPcJJIETcJJIEXcJJIPcJJITcJJIXcJJOcJJOPcJJOTcJJOXcJJU
cJJUOcJJUOPcJJUOXcJJUPcJJURcJJURXcJJUTcJJUXcJJYcJJYPcJJYTcJJYXcJOcJOPcJOTcJOXcJUcJUOcJUOPcJUOTcJUOX
cJUPcJURcJURXcJUTcJUXcJYcJYPcJYRcJYRXcJYTcJYXcKAcKAPcKATcKAXcKEcKEPcKETcKEXcKIcKIEcKIEPcKIEXcKIPcKIT
cKIXcKOcKOPcKOTcKOXcKUcKUOcKUOPcKUOXcKUPcKURcKURXcKUTcKUXcLAcLAPcLATcLAXcLEcLEPcLEXcLIcLIEcLIEPcLIET
cLIEXcLIPcLITcLIXcLOcLOPcLOTcLOXcLUcLUOcLUOPcLUOTcLUOXcLUPcLURcLURXcLUTcLUXcLYcLYPcLYRcLYRXcLYTcLYX
cMAcMAPcMATcMAXcMEcMEXcMGAcMGAPcMGATcMGAXcMGEcMGEPcMGEXcMGIEcMGIEXcMGOcMGOPcMGOTcMGOXcMGUcMGUOcMGUOP
cMGUOXcMGUPcMGURcMGURXcMGUTcMGUXcMIcMIEcMIEPcMIEXcMIPcMITcMIXcMOcMOPcMOTcMOXcMUcMUOcMUOPcMUOTcMUOX
cMUPcMURcMURXcMUTcMUXcMYcMYPcMYTcMYXcNAcNAPcNAXcNBAcNBAPcNBATcNBAXcNBIcNBIEcNBIEPcNBIEXcNBIPcNBIT
cNBIXcNBOcNBOPcNBOTcNBOXcNBUcNBUPcNBURcNBURXcNBUTcNBUXcNBYcNBYPcNBYRcNBYRXcNBYTcNBYXcNDAcNDAPcNDAT
cNDAXcNDEcNDEPcNDEXcNDIcNDIEcNDIEXcNDIPcNDITcNDIXcNDOcNDOPcNDOTcNDOXcNDUcNDUPcNDURcNDURXcNDUTcNDUX
cNEcNEPcNEXcNGAcNGAPcNGATcNGAXcNGEcNGEPcNGEXcNGIEcNGIEPcNGIEXcNGOcNGOPcNGOTcNGOXcNGUOcNGUOTcNGUOXcNI
cNIEcNIEPcNIEXcNIPcNITcNIXcNJIcNJIEcNJIEPcNJIETcNJIEXcNJIPcNJITcNJIXcNJOcNJOPcNJOTcNJOXcNJUcNJUO
cNJUOXcNJUPcNJURcNJURXcNJUXcNJYcNJYPcNJYRcNJYRXcNJYTcNJYXcNOcNOPcNOTcNOXcNRAcNRAPcNRATcNRAXcNREcNREP
cNRETcNREXcNROcNROPcNROXcNRUcNRUPcNRURcNRURXcNRUTcNRUXcNRYcNRYPcNRYRcNRYRXcNRYTcNRYXcNUcNUOcNUOP
cNUOXcNUPcNURcNURXcNUTcNUXcNYIcNYIEcNYIEPcNYIETcNYIEXcNYIPcNYITcNYIXcNYOcNYOPcNYOTcNYOXcNYUcNYUO
cNYUOPcNYUOXcNYUPcNYUTcNYUXcNZAcNZAPcNZATcNZAXcNZEcNZEXcNZIcNZIEcNZIEPcNZIEXcNZIPcNZITcNZIXcNZOP
cNZOXcNZUcNZUOcNZUOXcNZUPcNZURcNZURXcNZUXcNZYcNZYPcNZYRcNZYRXcNZYTcNZYXcOcOPcOTcOXcPAcPAPcPATcPAXcPI
cPIEcPIEPcPIEXcPIPcPITcPIXcPOcPOPcPOTcPOXcPUcPUOcPUOPcPUOXcPUPcPURcPURXcPUTcPUXcPYcPYPcPYRcPYRXcPYT
cPYXcQIcQIEcQIEPcQIETcQIEXcQIPcQITcQIXcQOcQOPcQOTcQOXcQUcQUOcQUOPcQUOTcQUOXcQUPcQURcQURXcQUTcQUXcQY
cQYPcQYRcQYRXcQYTcQYXcRAcRAPcRATcRAXcREcREPcREXcROcROPcROTcROXcRRAcRRAXcRREcRREPcRRETcRREXcRROcRROP
cRROTcRROXcRRUcRRUOcRRUOXcRRUPcRRURcRRURXcRRUTcRRUXcRRYcRRYPcRRYRcRRYRXcRRYTcRRYXcRUcRUOcRUOPcRUOX
cRUPcRURcRURXcRUTcRUXcRYcRYPcRYRcRYRXcRYTcRYXcSAcSAPcSATcSAXcSEcSEPcSEXcSHAcSHAPcSHATcSHAXcSHEcSHEP
cSHETcSHEXcSHOcSHOPcSHOTcSHOXcSHUcSHUOcSHUOPcSHUOXcSHUPcSHURcSHURXcSHUTcSHUXcSHYcSHYPcSHYRcSHYRX
cSHYTcSHYXcSIcSIEcSIEPcSIEXcSIPcSITcSIXcSOcSOPcSOTcSOXcSSAcSSAPcSSATcSSAXcSSEcSSEPcSSEXcSSIcSSIE
cSSIEPcSSIEXcSSIPcSSITcSSIXcSSOcSSOPcSSOTcSSOXcSSUcSSUPcSSUTcSSUXcSSYcSSYPcSSYRcSSYRXcSSYTcSSYXcSU
cSUOcSUOPcSUOXcSUPcSURcSURXcSUTcSUXcSYcSYPcSYRcSYRXcSYTcSYXcTAcTAPcTATcTAXcTEcTEPcTEXcTIcTIEcTIEP
cTIEXcTIPcTITcTIXcTOcTOPcTOTcTOXcTUcTUOcTUOPcTUOTcTUOXcTUPcTURcTURXcTUTcTUXcUOcUOPcUOXcVAcVAPcVAT
cVAXcVEPcVEXcVIcVIEcVIEPcVIETcVIEXcVIPcVITcVIXcVOcVOPcVOTcVOXcVUcVUPcVURcVURXcVUTcVUXcVYcVYPcVYR
cVYRXcVYTcVYXcWAcWAPcWATcWAXcWEcWEPcWEXcWOcWOPcWOXcWUcWUOcWUOPcWUOXcXIcXIEcXIEPcXIETcXIEXcXIPcXIT
cXIXcXOcXOPcXOTcXOXcXUOcXUOXcXYcXYPcXYRcXYRXcXYTcXYXcYIcYIEcYIEPcYIETcYIEXcYIPcYITcYIXcYOcYOPcYOT
cYOXcYUcYUOcYUOPcYUOTcYUOXcYUPcYURcYURXcYUTcYUXcYYcYYPcYYRcYYRXcYYTcYYXcZAcZAPcZATcZAXcZEcZEPcZEX
cZHAcZHAPcZHATcZHAXcZHEcZHEPcZHETcZHEXcZHOcZHOPcZHOTcZHOXcZHUcZHUOcZHUOPcZHUOXcZHUPcZHURcZHURXcZHUT
cZHUXcZHYcZHYPcZHYRcZHYRXcZHYTcZHYXcZIcZIEcZIEPcZIEXcZIPcZITcZIXcZOcZOPcZOTcZOXcZUcZUOcZUOPcZUOXcZUP
cZURcZURXcZUTcZUXcZYcZYPcZYRcZYRXcZYTcZYXcZZAcZZAPcZZATcZZAXcZZEcZZEPcZZEXcZZIcZZIEcZZIEPcZZIET
cZZIEXcZZIPcZZITcZZIXcZZOcZZOPcZZOXcZZUcZZUPcZZURcZZURXcZZUXcZZYcZZYPcZZYRcZZYRXcZZYTcZZYXaYIN YANG
aYO-YOaZ NOTATION BAG MEMBERSHIPcDOMAIN ANTIRESTRICTIONcLEFT BINDING BRACKETdIMAGE BRACKET
cRANGE ANTIRESTRICTIONcRELATIONAL COMPOSITIONcRIGHT BINDING BRACKETdIMAGE BRACKETcSCHEMA COMPOSITION
dPIPINGdPROJECTIONcSPOTcTYPE COLONaZANABAZAR SQUARE CLOSING DOUBLE-LINED HEAD MARKdHEAD MARK
cCLUSTER-FINAL LETTER LAfRAfVAfYAdINITIAL LETTER RAcFINAL CONSONANT MARK
cINITIAL DOUBLE-LINED HEAD MARKdHEAD MARKcLETTER -AdAdBAdBHAdCAdCHAdDAdDDAdDDHAdDHAdDZAdDZHAdGAdGHA
dHAdJAdKAdKHAdKSSAdLAdMAdNAdNGAdNNAdNYAdPAdPHAdRAdSAdSHAdSSAdTAdTHAdTSAdTSHAdTTAdTTHAdVAdYAdZAdZHA
cMARK DOUBLE SHADdLONG TSHEGdSHADdTSHEGcSIGN ANUSVARAdCANDRA WITH ORNAMENTdCANDRABINDU
dCANDRABINDU WITH ORNAMENTdVIRAMAdVISARGAcSUBJOINERcVOWEL LENGTH MARKdSIGN AIeAUeEeIeOeOEeREVERSED I
eUeUEaZEBRA FACEaZERO WIDTH JOINERcNO-BREAK SPACEcNON-JOINERcSPACEaZEUSaZIPPER-MOUTH FACE
aZNAMENNY COMBINING ATTACHING VERTICAL OMETcLOWER TONAL RANGE INDICATORcMARK BORZAYAdCHASHKA
dCHASHKA POLNAYAdCURVED OMETdDEMESTVENNY ZADERZHKAdDVOETOCHIEdGORAZDO NIZKO ON LEFTgRIGHT
fS KRYZHEM ON LEFTiRIGHTeVYSOKOdKACHKAdKRYZHdKRYZH ON LEFTdKUPNAYAdLOMKAdMALO POVYSHE ON LEFTgRIGHT
fS KHOKHLOM ON LEFTiRIGHTgKRYZHEMfSTRANNOdNIZKO ON LEFTfRIGHTeS KRYZHEM ON LEFThRIGHTdOBLACHKOdON
dOTSECHKAdPODCHASHIEdPODCHASHIE WITH VERTICAL STROKEdPODVERTKAdPOVYSHE ON LEFTfRIGHT
eS KHOKHLOM ON LEFThRIGHTfKRYZHEMeSTRANNOdRAVNOdRAZSEKAdSKOBAdSOROCHYA NOZHKAdSREDNE ON LEFTfRIGHT
dSTRANNO MALO POVYSHEdTIKHAYAdTOCHKAdTSATA ON LEFTfRIGHTeS KRYZHEMdUDARKAdVYSOKO ON LEFTfRIGHT
eS KHOKHLOM ON LEFThRIGHTfKRYZHEMdZADERZHKAdZELOdZEVOKcTONAL RANGE MARK MRACHNOfSVETLOfTRESVETLO
bNEUME CHASHKAcCHELYUSTKAcDEMESTVENNY KLYUCHcDERBITSAcDOUBLE ZAPYATAYAcDUDAcDVA V CHELNUcFITA
cGOLUBCHIK BORZYdMRACHNYdSVETLYdTIKHYdTRESVETLYcKHAMILOcKLYUCHcKOBYLAcKRYUKcKRYUK TIKHYcKRYZH
cKUFISMAcMECHIKcMECHIK KLYUCHENEPOSTOYANNYdKLYUCHEPOVODNYdKLYUCHEVOYdPOVODNYcNEMKAcOBLAKOcOSOKA
cOSOKA KLYUCHEVAYA NEPOSTOYANNAYAeSVETLAYAdKRYUKOVAYA SVETLAYAdSVETLAYAdTRESVETLAYAcPALKAcPARAKLIT
cPAUKcPEREVODKAcPEREVODKA NEPOSTOYANNAYAcPODCHASHIEcPOLKULIZMYcREVERSED CHELYUSTKAcROG
cSKAMEYTSA DVOECHELNAYA KLYUCHEVAYAeNEPOSTOYANNAYAePROSTAYAeSVETLAYAdKLYUCHENEPOSTOYANNAYA
dKLYUCHEVAYA SVETLAYAeTIKHAYAdMRACHNAYAdSVETLAYAdTIKHAYAdTRESVETLAYAcSLOZHITIEcSLOZHITIE S KRYZHEM
eZAPYATOYdZAKRYTOEcSTATYAcSTATYA NEPOSTOYANNAYAdS DVUMYA ZAPYATYMIeKRYZHEMeKRYZHEM I ZAPYATOYeROGOM
eZAPYATOYeZAPYATOY I KRYZHEMgPODCHASHIEMdZAKRYTAYAdZAKRYTAYA S ZAPYATOYcSTOPITSAcSTOPITSA S OCHKOM
dWITH SOROCHYA NOZHKAcSTRELA DVOECHELNAYAdDVOECHELNAYA KLYUCHEVAYAdDVOECHELNOKRYZHEVAYA
dDVOECHELNOPOVODNAYAdDVOECHELNOPOVODNAYA KLYUCHEVAYAdGROMNAYAdGROMNAYA WITH SINGLE ZAPYATAYA
dGROMOKRYZHEVAYAdGROMOKRYZHEVAYA POVODNAYAdGROMOPOVODNAYAdGROMOPOVODNAYA WITH DOUBLE ZAPYATAYA
fSINGLE ZAPYATAYAdKLYUCHENEPOSTOYANNAYAdKLYUCHEPOVODNAYAdKRYUKOVAYAdKRYUKOVAYA GROMNAYA
eGROMNAYA WITH SINGLE ZAPYATAYAeGROMOKRYZHEVAYAeGROMOKRYZHEVAYA POVODNAYAeGROMOPOVODNAYA
eGROMOPOVODNAYA WITH DOUBLE ZAPYATAYAgSINGLE ZAPYATAYAePOVODNAYAeTRYASKAdKRYZHEVAYAdMRACHNOTIKHAYA
dNEPOSTOYANNAYAdPOLUPOVODNAYAdPOVODNAYAdPROSTAYAdTIKHAYA PUTNAYAdTRYASOGLASNAYAdTRYASOPOVODNAYA
dTRYASOSTRELNAYAcVRAKHIYA KLYUCHEVAYA MRACHNAYAePROSTAYAeSVETLAYAeTRESVETLAYAdMRACHNAYAdPROSTAYA
dSVETLAYAdTRESVETLAYAcZANOZHEKcZAPYATAYAcZMEYTSAbPRIZNAK MODIFIER DIRECTION FLIPdKRYZHdLEVEL-2e3dROG
aZOMBIEaZWJaZWNBSPaZWNJaZWSP
"

end LeastPrivilege.Text
