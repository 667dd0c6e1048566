/-! The names of shorthand, musical and mathematical signs. -/

namespace Conductor.CharName

def formulas : List String := [
  "~1B000aaKATAKANA LETTER ARCHAIC EabHIRAGANA LETTER ARCHAIC YbaENTAIGANA LETTER A-1ua2ua3uaWO%scI",
  "ua2ua3ua4%scUua2ua3ua4ua5%scEua3ua4ua5ua6,scOua2ua3$scKAva2va3va4va5va6va7va8va9va10wa1vaKE:tcIva2",
  "va3va4va5va6va7va8*tcUva2va3va4va5va6va7)tcEva2va3va4va5va6(tcOva2va3vaKI%scSAva2va3va4va5va6va7",
  "va8*tcIva2va3va4va5va6(tcUva2va3va4va5va6va7va8*tcEva2va3va4va5&tcOva2va3va4va5va6va7)scTAva2va3",
  "va4%tcIva2va3va4va5va6va7)tcUva2va3va4vaTO&tcEva2va3va4va5va6va7va8va9+tcOva2va3va4va5va6vaRA)scNA",
  "va2va3va4va5va6va7va8va9+tcIva2va3va4va5va6va7vaTE*tcUva2va3$tcEva2va3va4va5va6vaKO)tcOva2va3va4",
  "va5&scHAva2va3va4va5va6va7va8va9va10wa1tbI-va2va3va4va5va6va7)tcUva2va3$tcEva2va3va4va5va6va7)tcO",
  "va2va3va4va5va6va7va8*scMAva2va3va4va5va6va7)tcIva2va3va4va5va6va7)tcUva2va3va4%tcEva2vaMA$tcOva2",
  "va3va4va5va6(scYAva2va3va4va5vaYO(tcUva2va3va4%tcOva2va3va4va5va6>sdRva2va3va4%tcIva2va3va4va5va6",
  "va7)tcUva2va3va4va5va6(tcEva2va3va4%tcOva2va3va4va5va6(scWAva2va3va4va5&tcIva2va3va4va5&tcEva2va3",
  "va4%tcOva2va3va4va5va6va7)sdN-MU-Mßa2baIRAGANA LETTER ARCHAIC WUaaKATAKANA LETTER ARCHAIC YIzaE",
  "yaWU~1B150%qaSMALL WIxaExaO~1B164$atKATAKxaExaOwaN~1BC00aaDUPLOYAN LETTER HqaXqaPqaTqaFqaKqaLqaB",
  "qaDqaVqaGqaRqaP NqaD S!qcFqaK M$qcRqaTHqbSLOAN DqcqaKK$waJqaHLqaLHqbRqaMqaNqaJqaS=qcM=qcNqcJ.rc",
  "%saWITH DOTqjNqjJßaS INSIDE AND ABOVE!qjSßa BELOW(saSqcNqcJqcSqcM NqcN MqeJqcS J,qkJ saNta S;sb",
  "ta RsaPta R&qcTsbR qaWraHra R(saNsaM(qeKqeG$saKta RqaAqaSLOAN OWqaOAraqaAOUqaIqaEqbIqaSHORT IqbU",
  "qaEE,waEH%qcROMANIAN!xaE!qcLONGqaYEqaUqbEqaXWqaU N(vaU+zaUqaUH,waUqaOOHraWraUqaWAraOraIrbEraOW",
  "+qcNASALwaOwaIwaAqaPERNIN ANyaM=waENwbAwbOqaVOCALIC M~1BC70jaAFFIX LEFT HORIZONTAL SECANTpsMID",
  "psRIGHTpjLOW VERTICpqMIDpqHIGHphATTACHEDygLEFT-TO-RIGHT ycTANGEßaILyaE HOOKyfIyfTANGENT",
  "~1BC80*uaACUTEufTIGHT ubGRAVufLONG uaDOTuaCIRCLEubLIN%udW>áa~1BC90*pgLOW+pmLOWtbGRAV+plLOWtaDOT",
  "+phLOWtbLIN%tdW+pjLOWtaARROW~1BC9CjaSIGN O WITH CROSSjaTHICK LETTER SELECTORjaDOUBLE MARK",
  "jaPUNCTUATION CHINOOK FULL STOPabSHORTHAND FORMAT LETTER OVERLAriCONTINUINGrbDOWN STErfUP",
  "~1CF00aaZNAMENNY COMBINING MARK GORAZDO NIZKO S KRYZHEM ON LEFTyxyiTSATA$ëhynyiSREDNEyjMALO POVYSH",
  "yp%ykVYSO$êhS KHOKHLOM yßytVYSOKO:øbRIGHyyyjTSATA$ëiyoyjSREDNE:íbRIGHyq%ylVYSO:øbRIGHyàyuVYSOKO",
  ",ãaS KRYZHEM%íaRYZHEMyaSTRANNO MALO POVYSHE!yræaTRANNO!ykVYSOKO!ypMALO >åaVYSOKOybZELyaON%ycRAV",
  "yaTIKHAYAydBORZybUDARKycPODVERTycLOM%ydKUPNzbACHKyaZEVOKyaSKOBAybRAZSEKyaKRYZH ON LEFT",
  "~1CF30:tcTONAL RANGE MARK MRACHébSVETLégTRE*ydZADERZyjDEMESTVENNY ydOTSEC<àaCHASHIE",
  "ça WITH VERTICAL STROKE$ydCHASäa POLNAYAyaOBLACHKO)yeSOROCHYA NOydTOC)ydDVOETOC",
  "taATTACHING VERTICAL OMETtfMARK CURVEDyaKRYZHtaLOWER TONAL RANGE INDICATOR",
  "jaPRIZNAK MODIFIER LEVEL-2åa3ßaDIRECTION FLIPßaKRYZHßaROG~1CF50jaNEUME KRYUKua TIKHYpaPARAKLIT",
  "paDVA V CHELNUpaKLYUCHpaZANOZHEKpaSTOPITSAxa S OCHKOMpaPEREVODKAya NEPOSTOYANNAYA",
  "$yaWITH SOROCHYA NOZHKApcCHELYUSTpcPAL%pdZAPYATpaGOLUBCHIK BORZYzbTIKHzbMRACHNzbSVETLzgTRE",
  "(peVRAKHIYA PROSydMRACHNydSVETLyiTRE%yiKLYUCHEVAYA édMRACHNédSVETLéiTRE<pjDOUBLE ",
  "pbREVERSED CHELYUSTKpbDERBITSpaKHAMILO$pcCHASHpaPODCHASHIE+plSKAMEYTSzdSVETLziTREßdIKH",
  "*raMESTVENNY KLYUCH;pwSKAMEYTSådNEPOSTOYANN!êdTIKHzdDVOECHELNAYA PROSTëdSVETLëdNEPOSTOYANN",
  "ëdKLYUCHEVqaLOZHITIEya S ZAPYATOYzaZAKRYTOEzaS KRYZHEMpaKRYZHpaROGpaFITApbKOBYLpbZMEYTS,qcTAT",
  "+qlTATYA*qkTATYAyhZAPYATOY I $yiKRYZHEM I waZAKRYTAYA&wkZAKRYTAYA %ybROGOyaDVUMYA ZAPYATYMI",
  "(ècPODCHASHIpaPOLKULIZMY(wdNEPOSTOYANNrdRELA PROSTwdMRACHNOTIKHwdKRYZHEVwdPOLUPOVODNyh(rqREL",
  "!wjKLYUCHE!woKLYUCHEweTIKHAYA PUTweDVOECHELädOKRYZHEVådPOVODN!ägAYA KLYUCäpOPOVODN",
  "wdGROMNAYA WITH SINGLE ZAPYATßßOPOVODßdN!éa$ïmDOUB+wlGROMêa POVODNAYApaMECHIKva POVODNYwbKLYUCHEVO",
  "âbPOVODNâcNEPOSTOYAN(weTRYASOGLASáePOVODáeSTRELpbOSOKua SVETLAYAviTREviKRYUKOVAYA wnLYUCHE",
  "ædNEPOSTOYANN>weKRYUKO>woKRYUKOædGROMNAYA WITH SINGLE ZAPYATêßOPOVODêdN!ôa$úmDOUBëdKRYZHEV",
  "õa POVODNAYAæbTRYASKpbKUFISMpaOBLAKOpaDUDApbNEMKpaPAUK~1D000aaBYZANTINE MUSICAL SYMBOL PSILI",
  "zaDASEIAzaPERISPOMENIzaOXEIA EKFONITIKONäaDIPLI!zpVAR!zjVARzbKATHISTzbSYRMATIKzePARAKLIzaYPOKRISIS",
  "ça DIPLI&ßdREMA*zmAPESOznEX<zdTELzbKENTIMATzaAPOSTROFOSèa DIPLIzaSYNEVMAzbTHIT)zcOLIGON ARCHAI",
  "zmGORzcPSILzeCHAMzaVATHY%zlISzjKENTIMAåjTA;zfSAX!zcPARICH>zcSTAVROS APODEX%zjOXEIAIznVAR)zlAPODER",
  "áaTHEMAzcKLASzcREV%zlPIAS!zcTINAGzcANATRICHISzeSE%zlSYNAGæaMETA STAVROU(zmOYRANI,zfzaLEMOIzaDYO",
  "zaTRIAßbESSERzbKRATIMATzaAPESO EXO NEO*zkFTHOR%zcIMIFTHO!zjTROMIKONzcKATAVA TROMIKzcPELASTßeSIFI",
  ";zcKONTEV=zlCHOREV!zcRAPIS!zlPARAKALESãjLITIKIzbICHADIzaNANA&zdPETA*æa ALLO;èaLLOzaSTRAGGISMATA",
  "zgGRONTHzaISON NEOzgOLIGßeXEIA*ãaTI<zeKOUFziPETASTOzjKRATIM(zgPELASTzbKENTIMATA NEO ANåizaYPSILI",
  "%zeAPOSTROFOSçfI SYNDESMO$àbORRO*åaYPORROONzcELAFR(zdCHAM!zcMIKRON IS>zhVARzfPIASM;ßiSIFI%zcOMAL",
  ">zcANTIKENOzcLYGIS%ßeARAKLITIKIãeALESMA$zdETERON PARAKALEzdKYLI(æcKYLIS+zgTROMIK+zcEKSTREPT",
  "(zgSYNAGàaRMA!zgCHOREV!zdEPEGE,zhSEI*zdXIRON KLA*åaPSIFISTON=zhPSIFISTOziTROMIK<zlTROMIKOzmPSIFIST",
  "!åcSYNAGziPSIFIST)zdGORGOSYNTHEzmAznETERON :ziOYRANzbTHEMATISMOS ESëbXãa APLOUNáaS KAI APOTHES",
  ">zeKATAV)ßcNDOFONzaYFEN KATOãbANzaSTAVROS!zeKLASMA&zcDIPLI ARCHAIzjKRATIMAçaLLOæbNEzgAPODERàaLI",
  "zdDIzeTRßdETRAzaKORONISzaLEIMMA ENOS CHRONOUåaDYO CHRONONåiTRIONækESSAR%åkIMISE>zeGORGON NEO",
  "åaPARESTIGMENON ARISTERAóbDEXI&zcDIGORGæa PARESTIGMENON ARISTERA KATOþbAN%zßDI%zhTRzeAzfIMIDIzh",
  "zaAGOGI POLI ARGIäbARGOTERçbäaMETRIAæaSI$ädGO&ähGO)édGOzaMARTYRIA PROTOS ICHOSçmALLI çiDEYTER",
  "çoALLI çiTRITêbFONIA!èjETARðfLEGETOS çnçiPLAGIzcISAKIA TELOUS ICHIMATzrAPOSTROFOI",
  ")zgFANEROSIS TETRAègMONOègDI(çhVARYçlPROTO.çoPLAGIOS zaGORTHMIKON N APLOUNëfDI",
  "zaENARXIS KAI FTHORA VOUzaIMIFONONâcTHOR$zcFTHORA ARCHAION DEYTEROU ICHåaDIATONIKI PAïbNAN",
  "+ziFTHORA NA!ïaDIådSKLIRON DIATONON!ïaKEïaZOïbNI KATòbANåaMALAKON CHROMA DIFONIASôgMONO",
  "ßbHTORA SKLIRON CHROMA VASI*íbCHROMA SYNAF&ådNEN:zcCHROA ZYGäaKLITONäaSPATHI",
  "%åaI YFESIS TETARTIMORIONåaENARMONIOS ANTIFONIA!ziYFESIS TRIzqDI%zsDIåaAPLI DYO DODEKATA",
  "åjMONOGRAMMOS TESSERAåjDIGRAMMOS EXåjTRIGRAMMOS OKTO%zwYF%zæYF%zßYF%zâYFzaGENIKI DIESISåeYF",
  "zaDIASTOLI APLI MIKRIíbEGALçcDIPçaTHESEOSziSIMANSISîa DISIMOUïgTRðfETRA%çeAR%çmARîgTR%çpAR",
  "zaDIGRAMMA GGàaFTOGGOS OUzaSTIGMAzbARKTIKO PæaVOUæaGAæaDIæaKEæaZOæaNIzaKENTIMATA NEO MESOåj!ìbKAT",
  "åjßfLASMA!zjGORGON~1D100aaMUSICAL SYMBOL SINGLE BARLINEpkDOUBpiFINALpnREVERSE piDASHEDpiSHORT",
  "paLEFT REPEAT SIGNpnRIGHqaEPEAT DOTS&raL SEGNOrb CAP!pfpaCODA&vaED FIGURE-1äa2äa3paFERMATAwa BELOW",
  "paBREATH MARK)qbAESUR!raACEtaKETpaONE-LINE STAFFplTWOqlHREEplFOURqlIVEplSIXtaSTRING FRETBOARD",
  "prFOURpaG CLEFva OTTAVA ALTAâbBASS$pfCpfF%prF%psFpaDRUM CLEF-1za2~1D129paMULTIPLE MEASURE REST",
  "paDOUBLE SHARPwaFLATpaFLAT UPuaDOWN!pdNATURALxaDOWN!pdSHARPvaDOWN*phQUARTER TONáaFLATpaCOMMON TIME",
  "qfUTpaOTTAVA ALTAwbBASS!pgQUINDICESIMábBASSpaMULTI RESTpfWHOLEpfHALF,xbRESpfEIGHTHphSIXTEEN",
  "pfTHIRTY-SECOND!thY-FOUR%plONE HUNDRED TWENTY-paX NOTEHEADpjPLUSpjCIRCLE XpaSQUARE NOTEHEAD WHITE",
  "äaBLACK!pgTRIANGLE NOTEHEAD UPéaBLACK!ægLEFTëaBLACK!æhRIGHìaBLACK!ægDOWNëaBLACK%ælUP %ælUP :ppMOON",
  ":ppMOON(xu-ROUNDñaBLACKpaPARENTHESIS NOTEHEADpjVOID&po!pjNULL*ppCLUSTERåaBLACKpaBREVEpbWHOLE NOT",
  "pfHALFpfQUARTERpfEIGHTHphSIXTEENpfTHIRTY-SECOND!thY-FOUR%plONE HUNDRED TWENTY-paCOMBINING STEM",
  "ßdPRECHGESANG SzaTREMOLO-1æa2æa3$pkFINGEREDåa2åa3%zaAUGMENTATION DOT)zcFLAGãa2ãa3ãa4ãa5",
  "paBEGIN BEAMpfEND!vaTIEpeEND!vaSLURpfEND%vbPHRASphEND<ßbCCENzaSTACCATOzcTENU!åbISSIM$zeMAR",
  "%ziMARCATO-zjACCENTzaLOUREpaARPEGGIATO UPßaDOWN,zbDOIzaRIPzcFLzaSMEARzaBENDzaDOUBLE TONGUEzjTRIP",
  "paRINFORZANDOpbSUBITpaZpaPIANOpbMEZZpaFORTE(pdCRESCEpjDEpaGRACE NOTE SLASHßfNO paTRqaURN",
  "peINVERTED %pgTURNuaUPpaORNAMENT STROKE-1äa2äa3äa4äa5äa6äa7äa8äa9äa10åa1paHAUPTSTIMMEpgNEBEN",
  "pgEND OF >pgDEGREEpaCOMBINING DOWN BOWzeUPzaHARMONICzaSNAP PIZZICATOpaPEDAL MARKveUP !pkHALF ",
  "paGLISSANDO UPzaDOWNpaWITH FINGERNAILSpaDAMPta ALLpaMAXIMApbLONGpaBREVISpaSEMIBREVIS WHITEßaBLACK",
  "&qdINva BLACK%tgMINIMA!pmSEMI!phFUS!phFUS,ua PERFECTA RESTvnIMpfBREVISplSEMI+waRESTplSEMI",
  "paTEMPUS PERFECTUM CUM PROLATIONE PERFECTAôiIM!üa DIMINUTION-1$wæIMöiIMÿaA DIMINUTION-1",
  "ÿaA DIMINUTION-2ÿaA DIMINUTION-3paCROIXpaGREGORIAN C CLEFzfFpaSQUARE BpaVIRGApaPODATUSpbCLIVI",
  "pbSCANDICUpdCLIMApcTORCUL&rdRRECya FLEXUSpjSCANDIC%xa RESUPINUSpbPES SUBPUNCTI<pjKIEV",
  "waEND OF PIECEwbFINAL NOTwaRECITATIVE MARK!wfWHOLEwfHALFwaQUARTER NOTE STEM DOWNíaUP!wpEIGHTHìaUP",
  "waFLAT SIGNpaSORI!qbORO~1D200aaGREEK VOCAL NOTATION SYMBOL-1áa2áa3áa4áa5áa6áa7áa8áa9áa10âa1âa2âa3",
  "âa4âa5âa6âa7âa8âa9áa20âa1âa2âa3âa4áa50âa1âa2âa3âa4gaINSTRUMENTAL NOTATION SYMBOL-1èa2èa4èa5èa7èa8",
  "èa11éa2éa3éa4éa7éa8éa9èa23éa4éa5éa6éa7éa9èa30éa2éa6éa7éa8éa9èa40éa2éa3éa5éa7éa8éa9èa50éa1éa2éa3éa4",
  "aaCOMBINING GREEK MUSICAL TRISEMEzeETRAyfPENT%gaMUSICAL LEIMMA~1D2E0aaMAYAN NUMERAL ZEROoaONEoaTWO",
  "paHREEoaFOURpaIVEoaSIXpaEVENoaEIGHT*ocNI$ocT%oeEL)ocTWEL$pcHIRTEofFOUpeIFoeSIXpeEVENoeEIGHoeNINE",
  "~1D300baONOGRAM FOR EARTHagDIGRAM FOR HEAVENLYmgUMANlaEARTHLY HEAVENubUMAqaaaTETRAGRAM FOR CENTRE",
  "obFULL CIRCLoaMIREDoaBARRIERoaKEEPING SMALLoaCONTRARIETYoaASCENToaOPPOSITIONoaBRANCHING OUT",
  "!oeDEFECTIVENESS OR DISTORpaIVERGENCEoaYOUTHFULNESSoaINCREASE%oePENETRAoaREACH,saACToaHOLDING BACK",
  "oaWAITINGodFOLLOW+odADVA*oeRELqbSISTANC!oeoaJOY+saENTIONoaENDEAVOURoaDUTIESoaCHANGE!pbECISIVENES",
  "&oeBOLD RESOLU:odPACK!odLEG%ofCLOSoaKINSHIP%odGATHERoaSTRENGTHoaPURITY&oeFULLoaRESIDENCE",
  "oaLAW OR MODEL!rbPONSoaGOING TO MEEToaENCOUNTERS*qaOVE)oeGREAT$qaLARGEMENT>qaTTERNoaRITUALoaFLIGHT",
  "=odVASTNESS OR WASToaCONSTANCYoaMEASURE>odETERNoeU+oeDIMINISHoaCLOSED MOUTH:peUARDEDpaATHERING IN",
  "+odMASSoaACCUMULATION(ohEMBELLobDOUBoaWATCH&odSINKoaINNER<odDEPART$odDARKENpdIMM+oeEXHAUS",
  "oaSEVERANCEpbTOPPAG=ofHAR%oeCOMPLE*odCLOSodFAIL>pfGGRAV%taIANCEobON THE VERG.qaFFICULTIES:odLABOUR",
  "oeFOSTE~1D360aaCOUNTING ROD UNIT DIGIT ONEyaTWOzaHREEyaFOURzaIVEyaSIXzaEVENyaEIGHT*ycNI+nkTENS",
  "yaTWOzaHREEyaFOURzaIVEyaSIXzaEVENyaEIGHT*ycNI+aeIDEOGRAPHIC TALLY MARKxaTWOyaHREExaFOURyaIVE&ao!ap",
  "~1D400aaMATHEMATICAL BOLD CAPITAL AßaBßaCßaDßaEßaFßaGßaHßaIßaJßaKßaLßaMßaNßaOßaPßaQßaRßaSßaTßaUßaV",
  "ßaWßaXßaYßaZsaSMALL AyaByaCyaDyaEyaFyaGyaHyaIyaJyaKyaLyaMyaNyaOyaPyaQyaRyaSyaTyaUyaVyaWyaXyaYyaZ",
  "naITALIC CAPITAL AáaBáaCáaDáaEáaFáaGáaHáaIáaJáaKáaLáaMáaNáaOáaPáaQáaRáaSáaTáaUáaVáaWáaXáaYáaZ",
  "uaSMALL AßaBßaCßaDßaEßaFßaG~1D456ßaIßaJßaKßaLßaMßaNßaOßaPßaQßaRßaSßaTßaUßaVßaWßaXßaYßaZ",
  "naBOLD ITALIC CAPITAL AæaBæaCæaDæaEæaFæaGæaHæaIæaJæaKæaLæaMæaNæaOæaPæaQæaRæaSæaTæaUæaVæaWæaXæaYæaZ",
  "zaSMALL AäaBäaCäaDäaEäaFäaGäaHäaIäaJäaKäaLäaMäaNäaOäaPäaQäaRäaSäaTäaUäaVäaWäaXäaYäaZ",
  "naSCRIPT CAPITAL A~1D49EáaCáaD~1D4A2áaG~1D4A5áaJáaK~1D4A9áaNáaOáaPáaQ~1D4AEáaSáaTáaUáaVáaWáaXáaY",
  "áaZuaSMALL AßaBßaCßaD~1D4BBßaF~1D4BDßaHßaIßaJßaKßaLßaMßaN~1D4C5ßaPßaQßaRßaSßaTßaUßaVßaWßaXßaYßaZ",
  "naBOLD SCRIPT CAPITAL AæaBæaCæaDæaEæaFæaGæaHæaIæaJæaKæaLæaMæaNæaOæaPæaQæaRæaSæaTæaUæaVæaWæaXæaYæaZ",
  "zaSMALL AäaBäaCäaDäaEäaFäaGäaHäaIäaJäaKäaLäaMäaNäaOäaPäaQäaRäaSäaTäaUäaVäaWäaXäaYäaZ",
  "naFRAKTUR CAPITAL AâaB~1D507âaDâaEâaFâaG~1D50DâaJâaKâaLâaMâaNâaOâaPâaQ~1D516âaSâaTâaUâaVâaWâaXâaY",
  "~1D51EvaSMALL AàaBàaCàaDàaEàaFàaGàaHàaIàaJàaKàaLàaMàaNàaOàaPàaQàaRàaSàaTàaUàaVàaWàaXàaYàaZ",
  "naDOUBLE-STRUCK CAPITAL AèaB~1D53BèaDèaEèaFèaG~1D540èaIèaJèaKèaLèaM~1D546èaO~1D54AèaSèaTèaUèaVèaW",
  "èaXèaY~1D552àaSMALL AæaBæaCæaDæaEæaFæaGæaHæaIæaJæaKæaLæaMæaNæaOæaPæaQæaRæaSæaTæaUæaVæaWæaXæaYæaZ",
  "naBOLD FRAKTUR CAPITAL AçaBçaCçaDçaEçaFçaGçaHçaIçaJçaKçaLçaMçaNçaOçaPçaQçaRçaSçaTçaUçaVçaWçaXçaY",
  "çaZßaSMALL AåaBåaCåaDåaEåaFåaGåaHåaIåaJåaKåaLåaMåaNåaOåaPåaQåaRåaSåaTåaUåaVåaWåaXåaYåaZ",
  "naSANS-SERIF CAPITAL AåaBåaCåaDåaEåaFåaGåaHåaIåaJåaKåaLåaMåaNåaOåaPåaQåaRåaSåaTåaUåaVåaWåaXåaYåaZ",
  "yaSMALL AãaBãaCãaDãaEãaFãaGãaHãaIãaJãaKãaLãaMãaNãaOãaPãaQãaRãaSãaTãaUãaVãaWãaXãaYãaZ",
  "yaBOLD CAPITAL AêaBêaCêaDêaEêaFêaGêaHêaIêaJêaKêaLêaMêaNêaOêaPêaQêaRêaSêaTêaUêaVêaWêaXêaYêaZ",
  "âaSMALL AèaBèaCèaDèaEèaFèaGèaHèaIèaJèaKèaLèaMèaNèaOèaPèaQèaRèaSèaTèaUèaVèaWèaXèaYèaZ",
  "yaITALIC CAPITAL AìaBìaCìaDìaEìaFìaGìaHìaIìaJìaKìaLìaMìaNìaOìaPìaQìaRìaSìaTìaUìaVìaWìaXìaYìaZ",
  "äaSMALL AêaBêaCêaDêaEêaFêaGêaHêaIêaJêaKêaLêaMêaNêaOêaPêaQêaRêaSêaTêaUêaVêaWêaXêaYêaZ",
  "yaBOLD ITALIC CAPITAL AñaBñaCñaDñaEñaFñaGñaHñaIñaJñaKñaLñaMñaNñaOñaPñaQñaRñaSñaTñaUñaVñaWñaXñaYñaZ",
  "éaSMALL AïaBïaCïaDïaEïaFïaGïaHïaIïaJïaKïaLïaMïaNïaOïaPïaQïaRïaSïaTïaUïaVïaWïaXïaYïaZ",
  "naMONOSPACE CAPITAL AäaBäaCäaDäaEäaFäaGäaHäaIäaJäaKäaLäaMäaNäaOäaPäaQäaRäaSäaTäaUäaVäaWäaXäaYäaZ",
  "xaSMALL AâaBâaCâaDâaEâaFâaGâaHâaIâaJâaKâaLâaMâaNâaOâaPâaQâaRâaSâaTâaUâaVâaWâaXâaYâaZ",
  "naITALIC SMALL DOTLESS IçaJ~1D6A8naBOLD CAPITAL ALPHAßbBETßbGAMMßbDELTßaEPSILON%ßdZßdßdTHßcIO",
  "ßbKAPPßbLAMDßaMUßbNßaXI,ßcOMICRßaPIßaRHO,äa SYMBOL>ßcSIGßaTAU>ßgU(àbHßcCßbPS,áaEGAsbNABL",
  "sbSMALL ALPHybBETybGAMMybDELTyaEPSILON%ydZydydTHycIOybKAPPybLAMDyaMUybNyaXI,ycOMICRyaPIyaRHO",
  "=ycFINAL SIGyfyaTAU>ygU(zbHycCybPSyaOMEGAsaPARTIAL DIFFERENTIALsbEPSILON SYMBOshTHETAsiKAPPshPHI",
  "shRHO!tinaITALIC CAPITAL ALPHAábBETábGAMMábDELTáaEPSILON%ádZádádTHácIOábKAPPábLAMDáaMUábNáaXI",
  ",ácOMICRáaPIáaRHO,æa SYMBOL>ácSIGáaTAU>ágU(âbHácCábPS,ãaEGAubNABLubSMALL ALPHßbBETßbGAMMßbDELT",
  "ßaEPSILON%ßdZßdßdTHßcIOßbKAPPßbLAMDßaMUßbNßaXI,ßcOMICRßaPIßaRHO=ßcFINAL SIGßfßaTAU>ßgU(àbHßcCßbPS",
  ",áaEGAuaPARTIAL DIFFERENTIALubEPSILON SYMBOuhTHETAuiKAPPuhPHIuhRHO!vinaBOLD ITALIC CAPITAL ALPHA",
  "æbBETæbGAMMæbDELTæaEPSILON%ædZædædTHæcIOæbKAPPæbLAMDæaMUæbNæaXI,æcOMICRæaPIæaRHO,ëa SYMBOL>æcSIG",
  "æaTAU>ægU(çbHæcCæbPS,èaEGAzbNABLzbSMALL ALPHäbBETäbGAMMäbDELTäaEPSILON%ädZädädTHäcIOäbKAPPäbLAMD",
  "äaMUäbNäaXI,äcOMICRäaPIäaRHO=äcFINAL SIGäfäaTAU>ägU(åbHäcCäbPS,æaEGAzaPARTIAL DIFFERENTIAL",
  "zbEPSILON SYMBOzhTHETAziKAPPzhPHIzhRHOzhPInaSANS-SERIF BOLD CAPITAL ALPHAêbBETêbGAMMêbDELT",
  "êaEPSILON%êdZêdêdTHêcIOêbKAPPêbLAMDêaMUêbNêaXI,êcOMICRêaPIêaRHO,ïa SYMBOL>êcSIGêaTAU>êgU(ëbHêcC",
  "êbPS,ìaEGAâbNABLâbSMALL ALPHèbBETèbGAMMèbDELTèaEPSILON%èdZèdèdTHècIOèbKAPPèbLAMDèaMUèbNèaXI",
  ",ècOMICRèaPIèaRHO=ècFINAL SIGèfèaTAU>ègU(ébHècCèbPS,êaEGAâaPARTIAL DIFFERENTIALâbEPSILON SYMBO",
  "âhTHETAâiKAPPâhPHIâhRHO!ãiâaITALIC CAPITAL ALPHAñbBETñbGAMMñbDELTñaEPSILON%ñdZñdñdTHñcIOñbKAPP",
  "ñbLAMDñaMUñbNñaXI,ñcOMICRñaPIñaRHO,öa SYMBOL>ñcSIGñaTAU>ñgU(òbHñcCñbPS,óaEGAébNABLébSMALL ALPH",
  "ïbBETïbGAMMïbDELTïaEPSILON%ïdZïdïdTHïcIOïbKAPPïbLAMDïaMUïbNïaXI,ïcOMICRïaPIïaRHO=ïcFINAL SIGïf",
  "ïaTAU>ïgU(ðbHïcCïbPS,ñaEGAéaPARTIAL DIFFERENTIALébEPSILON SYMBOéhTHETAéiKAPPéhPHIéhRHO!êi",
  "<ncBOLD CAPITAL DIGAMsjSMAL~1D7CEsaDIGIT ZEROyaONEyaTWOzaHREEyaFOURzaIVEyaSIXzaEVENyaEIGHT*ycNI",
  ",nlDOUBLE-STRUCKæaONEæaTWOçaHREEæaFOURçaIVEæaSIXçaEVENæaEIGHT*æcNI,nlSANS-SERIFãaONEãaTWOäaHREE",
  "ãaFOURäaIVEãaSIXäaEVENãaEIGHT*ãcNI,ykBOLD èaONEèaTWOéaHREEèaFOURéaIVEèaSIXéaEVENèaEIGHT*ècNI",
  ",nlMONOSPACEâaONEâaTWOãaHREEâaFOURãaIVEâaSIXãaEVENâaEIGHT*âcNIaaSIGNWRITING HAND-FIST INDEX",
  "rgCIRCLEsgUPrgOVALrgHINGErhANGL(àa BENTrlCIRCLE!wkTHUMB UNDER $áaRAISED KNUCKLEáaCUPPEDácHING",
  "ça LOW(ãaHINGE&ácMIDDrnCIRCLE!ça BENTèaRAISED KNUCKLESèaHINGEDánUP *èaMIDDLE UP$ècCONJOIN",
  "ña INDEX BENTòfMIDDLEòaCUPPEDòcHINGécROSSrvCIRCLE!waMIDDLE BENT OVER INDEX=ágBENT OVER %èaTHUMB",
  "rtCIRCLE+èfSTRAIGHT THUMBèbBENT THUMB STRAIGH!èkèaHINGED SPREAD THUMB SIDEámUP MIDDLE HINGE",
  "øaCONJOINED!álHINGED MIDDLE UP;èbUP SPREAD THUMB FORWAR>èhTHUMBïcIRCLîcHOOKïcING",
  ".wjTHUMB BETWEEN INDEX MIDDLE,èmCONJOINEüa CONJOINEDýaBENTwaMIDDLE THUMB HOOKED INDEX UP",
  "!áaTHUMB HOOKED MIDDLE UP&òkHINGED énROSS(øbFORWARònCUPPED (èlCUPP(çmCUPP!élIRCLöaHINGED",
  "$çkANGLED OUTîkIN&èmIRCL=ècTHUMB CONJOINED HINGîaANGLED OUTôa*èjANGLED OUTùaCROSSED!ïi",
  "(áhTHUMB HOOKED MIDDLEsaLAT FOUR FINGERSça BENTèaHINGEDècCONJOINña SPLIT!rxCLAW",
  "&sfIST FOUR FINGERS CONJOINED!rxHINGE&xbIVE FINGERS SPREAwtHEEL !îa FOUR BENTwâHEEL !ïe!ôe",
  "!ïaTHUMB FORWARD(ruCUPía OPENrzHINGE+rvOVA&ïbHINGEõa THUMB SIDEöaNO THUMBvava BETWEEN PALM FACINGS",
  ".ßa&wkwkHEEL !áaBENT<wn$wlSPLIT INDEXábCENTR!álCENTREòa BENTáaLITTLEraCLAW%rlCLAW=rjCLAW+roCLAW",
  "raHOOK CURLICUEvaraCUP OPENua)slUP OPENvk*sjUP OPENvi+soUP OPENvn*tfRLICUEzasbIRCLraOVAL+rlOVAL",
  "*rjOVAL)roOVAL)rgHING,rtHINGEwawa SMALL$çaSIDExk!áaNO THUMBxi$æa TOUCHING INDEX",
  "âaBETWEEN MIDDLE RING=rcANG!rmFIST INDEXrsCIRCLErtHINGrtANGL,xbLITTL&ìa BENTíaCONJOINEDráHINGE",
  "!waLITTLE DOWNæa RIPPLE STRAIGHTîaCURVEDçcOTHERS CIRCLâaUPwjTHUMB UNDER rkCIRCLErkOVAL!rmANG",
  "&âaRAISED KNUCKLEâaBENTâaTOUCHES THUMBãernHINGE$âgINDEXrtHINGE*ãaINDEX THUMB INDEX THUMB OUTúa%ça",
  "rnCIRCLE&èa%èa;wcINDEX MIDDLE LITTruCIRCLErvHINGxaRING$rwANG&ègCROSS rßCIRCLE!waRING DOWN",
  "&àa DOWN INDEX THUMB HOOK MIDDLE&xaRING DOWN MIDDLE THUMB INDEX CROSS$àaUPàaRAISED KNUCKLEàcLITT",
  ")yhRINGrmOVAL!roANG%àcMIDDæa CONJOINEDçaRAISED KNUCKLESàaINDEXàaTHUMBrlHOOK,wlINDEX rsCIRCLE",
  "saURLICUE INDEX RING LITTLE ON%waINDEX RING LITTLE OUTíaINíaUNDER&ssUPrsHINGE&rwANGLEía",
  ",waMIDDLE DOWN%xcMIDD!âaUPrkCIRCLE!âaRAISED KNUCKLEâbUP THUMB SID.waMIDDLE THUMB$âcTHUMB LITTâg",
  "âgRING rtCIRCLEsaURLICUE MIDDLE RING LITTLE ON!stUPrtHINGE>xqMIDDLEïaINîa)ïa BENT",
  "saLAW MIDDLE RING LITTLE CONJOINED÷a SIDE<âaRING LITTLE CONJOINED OUTøaIN÷a,xaINDEX HINGED",
  "=wbINDEX THUMB SIDrrHINGE!ëa THUMB DIAGONALòaCONJOINEDòaBENTìfINDEXìfBOTH!òaHINGE",
  "çaFORWARD INDEX STRAIGHTõbBENçaHOOKçaCURLICUEêbVE THUMB INSIDräCLAW!óaUNDERèaIRCLE",
  "raCUP INDEX THUMBåa OPENrrHINGEèaLARGEçaça SMALLraANGLE INDEX THUMB OUTèaINçargFISTàa HEEL",
  "ábSIDE DIAGONAæaCONJOINEDæaBENTáaFORWARDáaBETWEEN INDEX MIDDLEéaMIDDLE RING!écRING LITT",
  "áaUNDER TWO FINGERSáoOV!èiHREEçiFOUR$æbFOUR RAISED KNUCKLEva<we*mcTOUCH SINGscMULTIPsaBETWEEN",
  "$mhGRASPscMULTIP$miGRASP$mhSTRIKEtcMULTIPtaBETWEEN+miBRUS+mkBRUS+mjBRUS$mhRUB$mjRUB$miRUB",
  "maSURFACE SYMBOLS*njURFAC.niQUEEZE LARGuhSMALL!ßcMULTIPujSMALLvaEQUENTIAL&mnFLICKshSMALL&mpFLICK",
  "sjSMALL&mlFLICK(uaFLICK ALTERNATINGmaMOVEMENT-HINGE UP DOWN LARGEèaSMALLãbSEQUENTIAàlDOWN",
  "%èfALTERNATING ôaSMALLàaSIDE TO SIDE SCISSORSvaWALLPLANE FINGER CONTACTvuFLOOR",
  "!äaSINGLE STRAIGHT SMALLôaMEDIUMôaLARGEùaSTëaWRIST FLEXäaDOUBLE STRAIGHT!änDOUBëaALTERNATING",
  "öa WRIST FLEXäaCROSSäaTRIPLE STRAIGHT MOVEMENT&änTRIP&äoTRIP&äzTRIP<ägBEND<ähBENDéaLARGE$ägCORNER",
  "ëaMEDIUMëaLARGEëaROTATION%ågHECK%åhHECKêaLARGE,ågOX,åhOX,ågOX$ägZIGZAGëaMEDIUMëaLARGE$ägPEAKS",
  "êaMEDIUMêaLARGEmbTRAVEL-WALLPLANE ROTATION-WALLPLANE SINGLõcDOUBõaALTERNATING$ëmFLOORöcDOUB",
  "$ërFLOORâdSHAK%âhARM SPIRALícDOUBícTRIP;vgDIAGONAL AWAYèaMEDIUMèaLARGEíaST%ãgTOWARDSëaMEDIUM",
  "ëaLARGEðaST*ãkBETWEEN ðaMEDIUMðaLARGEõaST%ëgTOWARDSóaMEDIUMóaLARGEøaST",
  "%vgFLOORPLANE SINGLE STRAIGHTõaMEDIUMõaLARGEúaSTìaWRIST FLEXåaDOUBLE STRAIGHT!ånDOUBìaALTERNATING",
  "÷a WRIST FLEXåaCROSSåaTRIPLE STRAIGHT MOVEMENT&ånTRIP!ìjALTERNATING&åzTRIPåaBEND=ågCORNERìaMEDIUM",
  "ìaLARGEæaHECK%ågBOX%åhBOX%ågBOX$ågZIGZAGìaMEDIUMìaLARGE$ågPEAKSëaMEDIUMëaLARGE",
  "mbTRAVEL-FLOORPLANE ROTATION-FLOORPLANE SINGL÷cDOUB÷aALTERNATING$ìmWALLöcDOUB$ìrWALLãdSHAK",
  ",vgWALLPLANE CURVE QUARTERòaMEDIUMòaLARGE÷aST%êgHALF-CIRCLEöaMEDIUMöaLARGEûaST%êmTHREE-QUARTER ",
  "ÿaMEDIUM!ägHUMP!ähHUMPéaLARGE$ähLOO$äiLOO$ähLOO$îa DOUBLE+äiWAVE CURVE DOUBöaMEDIUMöaLARGE$ïiTRIP",
  "$ïjTRIPöaLARGE<ìaEN STRAIGHT>égD CROSSñaMEDIUM,mcROTATION-WALLPLANE SINGäcDOUBäbALTERNAT%äaSHAKING",
  "(éd HITTING FRONT WätHUMPäuLOO$ävWA*êa HITTING FRONT WALLävDOUBätALTERNATING)òaCHESTäoHUMPäpLOO",
  "$äqWA)óaCHESTäqDOUB)øaCHEST.édDIAGONAL PATH SM÷aMEDIUM÷aLARGE$vgFLOORPLANE CURVE HITTING CEILING",
  "ûaLARGEåbHUMP HITTING CEILING SMALL DOUBLúhLARGE!ÿc TRIPúhLARGEåcLOOP HITTING CEILING SMALL SING",
  "úhLARGE(åãLOOúhLARGE,åyWA,åyWA>vaFLOORPLANE SINGLE HITTING CEILINGåsDOUBåqALTERNATING=ógFLOOR",
  "ùaLARGE=ònFLOORøhLARGE=ònFLOOR TRIPLEÿhLARGE=ònFLOORøhLARGE!þcDOUBøhLARGE,åwWA,åwWA=ôaFLOORåqDOUB",
  "=ùaFLOOR=ëfëaMEDIUM>ëfðaSTëaCOMBINED&ågHUMPåhLOO.êbSNAK;êf;êf;ëa;ëa;ða&åbSHAKING PARALLE",
  "vaWALLPLANE ARM CIRCLE SMALL SINGLEïhMEDIUM!õcDOUB!öcDOUB%vnFLOORPLANE ARM CIRCLE HITTING WALL",
  "ýhMEDIUMýhLARGE$ÿcALL DOUBýhMEDIUMýhLARGE+ähWRIST CIRCLE FRONT÷cDOUB*åkWRIST CIRCLE HITTING W",
  "ÿcDOUB%ähFINGER CIRCLESócDOUB%åuFINGER CIRCLESÿcL DOUBmaDYNAMIC ARROWHEAD SMALLãaLARGEuaFASTuaSLOW",
  "uaTENSEuaRELAXEDuaSIMULTANEOUSåa ALTERNATINGuaEVERY OTHER TIMEuaGRADUALmaHEADqa RIM",
  "raMOVEMENT-WALLPLANE STRAIGHTébTIL!ßoFLOOR!éaCURVEßlFLOORzb CIRCL",
  ".meFACE DIRECTION POSITION NOSE FORWARD TILîaUP OR DOWNøa TILTINGmaEYEBROWS STRAIGHT UPãaNEUTRAL",
  "ãaDOWNmfDREAMY EYEBROWS NEUTRALáaDOWN NEUTRALáiUP$éaUP!miFOREHEADvaCONTACTvaWRINKLED*pbS OPE",
  "raSQUEEZEDrcCLOSpa BLINK SINGLEwcMULTIP&reHALF rfWIDE&rgHALF !vaNING MOVEMENTpa WINKpaLASHES UP",
  "waDOWNwaFLUTTERINGpaGAZE-WALLPLANE STRAIGHTëa DOUBLEìaALTERNATING$uoFLOOR$uvFLOOR$ußFLOOR%ãaCURVED",
  "umFLOOR(ãdCIRCL!mcCHEEKS PUFFtaNEUTRAL!tcSUCKmaTENSE CHEEKS HIGHzaMIDDLEzaLOWmaEARS(miNOSE",
  "raCONTACTraWRINKLESsdIGGmaAIR BLOWING OUTqaSUCKING IN!ua SMALL ROTATIONSqqSUCK.mcBREATH INHAteEX",
  ",miMOUTH CLOSEDzaFORWARDzaCONTACTsaSMILExa WRINKLEDyaOPENsbFROW$sjFROWNyaOPEN(scOPEN CIRC+siOPEN",
  "%skOPExaOVAL!xiOVAL áaYAWN(xcRECTANGåa WRINKLEDæaYAWNsaKISS+siKISS%sjKISSsaTENSE$siTENSEybSUCKE",
  "maLIPS PRESSED TOGETHERpc LOWER OVER UPPqcUPPER OVER LOW+sbCORNER;seWRINKLES SIàcDOUB",
  "maTONGUE STICKING OUT FARtaLICKING LIPStfTIP BETWEENxaTOUCHING INSIDE MOUTHtaINSIDE MOUTH RELAXED",
  "taMOVES AGAINST CHEEKtaCENTRE STICKING OUT%tnCENTREncEEra MOVEMENTsaON TONGUEàa MOVEMENTvaLIPS",
  "!vjLIPS!sfBITE>oaVEMENT-WALLPLANE JAWvjFLOORmaNECKmaHAIR(mfEXCITmaSHOULDER HIP SPINEzaPOSITIONS",
  "maWALLPLANE SHOULDER HIP MOVEmxFLOOR$vaTILTING FROM WAISTmaTORSO-WALLPLANE STRAIGHT STRETCH",
  "áaCURVED BENDsaFLOORPLANE TWISTINGmaUPPER BODY TILTING FROM HIP JOINTSmaLIMB COMBINATIONraLENGTH-1",
  "ya2ya3ya4ya5ya6ya7maFINGERmaLOCATION-WALLPLANE SPACEvlFLOORua HEIGHTvaWIDTHvcDEP$xaAD NECKvaTORSO",
  "vaLIMBS DIGITSmaCOMMAmaFULL STOPmaSEMICOLONmfmaPARENTHESIS~1DA9B<oaLL MODIFIER-2ßa3ßa4ßa5ßa6",
  "~1DAA1&mlROTATIONãa3ãa4ãa5ãa6ãa7ãa8ãa9ãa10äa1äa2äa3äa4äa5äa6",
  "~1DF00aaLATIN SMALL LETTER FENG DIGRAPH WITH TRILLtaREVERSED SCRIPT GgcLETTER SMALL CAPITAL TURNED",
  "!áaK!àaL WITH BELT!tbLEZH WITH RETROFLEX HOOtaTURNED Y WITH BELT(ábEN$tpTURNED R WITH LONG LEG AND",
  "ut WITH HOOK&guLETTER RETROFLEX CLICK!taESH WITH DOUBLE BARëa AND CURLtfTURNED T WITH",
  "gkLETTER INVERTED GLOTTAL STOPnkSTRETCHED C<çaK:ue WITH FISHteDEZH DIGRAPH WITH PALATAL ",
  "tnL WITH BELT AND!tsENGtsTURNED R$trR WITH FISHHOOK&tàTESttEZ)êfRETROFLEXtpI WITH STROKE AND!tuO",
  "$tâTEStuCtaS WITH CURL~1E000aaCOMBINING GLAGOLITIC LETTER AZUáaBUKYáaVEDEáaGLAGOLIáaDOBROáaYESTU",
  "áaZHIVETE~1E008âaEMLJAáaIZHEâdNITIAL IâaábDJERVáaKAKOáaLJUDIJEábMYSLITáaNASHIáaONUáaPOKOJIábRITS",
  "áaSLOVOábTVRIDáaUKUábFRITábHER~1E01BáaSHTA)ádábCHRIV$ãb&ádYäaIâbAT~1E023âaUáaSMALL YUS~1E026áaYO",
  "!ájIOTATED áeBIG!éeBIG;ácFI~1E100abNYIAKENG PUACHUE HMONG LETTER MãbTSãbNTãcãbHãbNãbXãbNKãbCãbLãbS",
  "ãbZãbNCäbTSãbKãbDãbNYäbRãbV(åbXãdãbFãbRãbQãbYãbNQãbPãbXYãbNPãbDLãcNPãaHAH!ãcMãcPãbGãbRRãbäaAãaIãaU",
  "ãaOäaOãaEäaEãaW~1E130xaTONE-BáaMáaJáaVáaSáaGáaDxaSIGN FOR PERSONåaTHING!åcLOCATIåaANIMAL",
  "åaINVERTEBRATEáaXW XWyaYLLABLE LENGTHENER~1E140xaDIGIT ZEROâaONEâaTWOãaHREEâaFOURãaIVEâaSIXãaEVEN",
  "âaEIGHT*âcNI~1E14ExaLOGOGRAM NYAJxaCIRCLED CA~1E290abTOTO LETTER PmbBmbTmbDmbKmbGmbMmbNnbGmbSmbCH",
  "mbYmbWmbJmbHmbRmbLmaImbBREATHY maIU!vaUmbmaE$uaEmaEO!vaOmbmaAE&ubAmaAfaSIGN RISING TONE",
  "~1E2C0aaWANCHO LETTER AApaobBobCobDobGobYobPHobLobNobPobTpbHobFobSpbHobJobZobWobVobKoaOoaAUoaRAobM",
  "obKHocoaEoaIoaNGAoaU&ocLLobTSpbRoaONGocAApcocI%qaobE&ra:pbY$ocUoaYIHhaTONE TUPpaNImbKOpaNI",
  "haDIGIT ZEROnaONEnaTWOoaHREEnaFOURoaIVEnaSIXoaEVENnaEIGHT*ncNI~1E2FFhaNGUN SIGN",
  "~1E7E0aaETHIOPIC SYLLABLE HHYAvaUvaIvaAAvaEEwavaO~1E7E8saGURAGE HHWA(ubWvaEEwa~1E7ED%zaMWIàaEE",
  "~1E7F0!zcQ!zdQáa$zcB$zdB!zcK!zdKáa$zcG$zdGáa$zcF$zdF!zcP!zdP~1E800aaMENDE KIKAKUI SYLLABLE M001 KI",
  "ßa2 KAßa3 KUza65 KEEzb95 Kza76 KOOzb48 Kya179 KUA*ßb4 Wßa5 WAßa6 WU*yc126 Wzb18 Wßa4 WOOyb045 W",
  "ya194 WUIzb43 WEyb061 WVza49 WVA)zb39 WVya007 MINßb8 MAßb9 MUzb59 MEzb94 MOyb154 MUAzb89 MUE",
  ",zb10 Bßa1 BAßa2 BU.zb50 BEyb097 Bya103 BOOzb38 B)ßb3 ßa4 Aßa5 U)zc63 zb00 )zc65 zb47 za37 EI",
  "ßa1 INßd5zb95 Azb78 E:ßb9 Sza20 SAßa1 SU:ßc2 Szb16 S:zc36 Syb079 Sya196 SIA*zb25 Lßa6 LAßa7 LU",
  "za84 LEEzb73 Lza54 LOOyb153 L$yd110 LONG*zb16 Dßa7 DAßa8 DU*ßc9 D=zc80 Dßb1 D(zb22 Tßa3 TAßa4 TU",
  "(zc91 Tzb55 T)zc04 Tyb069 Tza28 JIßa9 JAza30 JU)yc157 Jzb13 J)zc60 Jyb063 Jyd175 LONG*zb31 Yßa2 YA",
  "ßa3 YU*zc09 Yyb080 Y*zc41 Yzb21 Y)ßb4 Fßa5 FAßa6 FUza78 FEEßb5 F)zc33 Fyb088 Fya197 FUAza01 FAN",
  "yb037 NIßb8 NAßb9 NUyb117 NEzb69 NOza76 HI<zb41 Hya186 HU<zc40 Hzb96 Hza42 HOOyb140 Hya083 HEEI",
  "(zb28 HOO<zc53 H>zc30 H<zc87 Hzb52 HE<zc93 Hyb046 HUAza90 NGGIza43 NGGAza82 NGGU=yc115 NGGzb46 NGG",
  "za56 NGGOOzb20 NGGza59 NGGAAzb27 NGGU&yf086 LONG&zg06 LONG&zf83 LONGza55 GIza11 GAza68 GU:zd90 ",
  "za66 GUEIßa7 GUANzb84 NGEyb057 NGO$ze77 Nya068 PIza99 PAza50 PUza81 PEEzb51 P>ßc2 Pyb066 P:zb45 MB",
  ")zb62 MB>zb22 MB)zc47 MByf188yb072 MB*zc72 MBßb4 MBza87 MBUU%ye161 LONG%zf05 LONG%ze42 LONG",
  "za32 KPI:zb92 KPza74 KPU:ßc4 KPyb108 KP)zc12 KPzb58 KPza24 GBI)zb56 GB;zb48 GB)zc93 GB<zc07 G",
  "<yd071 Gßb0 GBya171 RAza23 NDIßa9 NDAßa5 NDUza91 NDEEzb19 ND*zc67 NDßb4 ND(zb52 NJza92 NJU(zc49 NJ",
  "za34 NJOOza82 VIßa5 VAza51 VU&zc73 Vyb085 V(zc44 Vyb077 Vya164 NYINyb058 NYAyb170 NYUyb098 NYE",
  "zb60 NYO~1E8C7oaDIGIT ONEuaTWOvaHREEuaFOURvaIVEuaSIXvaEVENuaEIGHT*ucNIoaCOMBINING NUMBER TEENSæc",
  "äbHUNDREDäcTHOUSANåiEN TäkHUNDREDäbMILLION~1E900aaADLAM CAPITAL LETTER ALIFvaDAALIvaLAAMvbMIIvaBA",
  "vaSINNYIIYHEvbPvbBHvaRAvaEvaFAvaIvaOvaDHA+vdvaWAWvaNUNvaKAFvaYAvaUvaJIIMvaCHI+vc(vcQAvaGAvbNYvaTU",
  "!wbHvbVvbKHvaGBEvaZALvaKPO%vcSgaSMALL LETTER ALIFtaDAALItaLAAMtbMIItaBAtaSINNYIIYHEtbPtbBHtaRAtaE",
  "taFAtaItaOtaDHA+tdtaWAWtaNUNtaKAFtaYAtaUtaJIIMtaCHI+tc(tcQAtaGAtbNYtaTU!ubHtbVtbKHtaGBEtaZALtaKPO",
  "%tcSgaALIF LENGTHENERglVOWELgaGEMINATION MARKgaHAMZA$gcCONSONANT MODIFIgsGEMINATE gaNUKTA",
  "&gkNASALIZ~1E950gaDIGIT ZEROmaONEmaTWOnaHREEmaFOURnaIVEmaSIXnaEVENmaEIGHT*mcNI",
  "~1E95E.gkINITIAL EXCLAMojQUES~1EC71.aeINDIC SIYAQ NUMBERtaTWOuaHREEtaFOURuaIVEtaSIXuaEVENtaEIGHT",
  "*tcNI$tcTuaWENTYucHIRtdFOucIFtcSIX+yaTY+yaY+xaTYtaONE HUNDREDtiTWOuiHREEtiFOURuiIVEtiSIXuiEVEN",
  "tiEIGHT*tkNI+xbTHOUSANtjTWOujHREEtjFOURujIVEtjSIXujEVENtjEIGHT*tlNI$tlTujWENTYulHIRtmFOulIFtlSIX",
  "+yjTY+yjY+xjTYtaLAKHxaANmaLAKH MARK!taKARORyaANtaPREFIXED ONEáaTWOâaHREEáaFOURâaIVEáaSIXâaEVEN",
  "áaEIGHT*ácNImaPLACEHOLDERmcFRACTION ONE QUARTzaHALFvaTHREE QUARTERS>mfRUPEE<teALTERNATEâaTWO",
  "ãaEN THOUSAND%mfALTERNATE LAKH~1ED01%aeOTTOMAN SIYAQ NUMBERvaTWOwaHREEvaFOURwaIVEvaSIXwaEVEN",
  "vaEIGHT*vcNI$vcTwaWENTYwcHIRvdFOwcIFvcSIXwcEVEN+ßaY+zaTYvaONE HUNDREDviTWOwiHREEviFOURwiIVEviSIX",
  "wiEVENviEIGHT*vkNI+zbTHOUSANvjTWOwjHREEvjFOURwjIVEvjSIXwjEVENvjEIGHT*vlNI$vlTwjWENTYwlHIRvmFOwlIF",
  "vlSIXwlEVEN+ßjY+zjTYoaMARRATANoaALTERNATE NUMBER TWOåaHREEäaFOURåaIVEäaSIXåaEVENäaEIGHTäaNINE$äcT",
  ")èa HUNDREDäiSIX.ça THOUSANDåjENoaFRACTION ONE HALFàaSIXTH~1EE00aaARABIC MATHEMATICAL ALEFuaBEH",
  "uaJEEMuaDAL~1EE05uaWAWuaZAINuaHAHucTubYEuaKAFuaLAM+udMuaNOONubSEE+ud)ucFuaSAD*ucQ$ucR(vdH!ucTvcH",
  ">udK!waAL*ucD$ucZ:udGH(ucDOTLESS BáaNOON!ácFáaQAF~1EE21%ueINITIALáaJEEM~1EE24!ácH~1EE27âbA",
  "~1EE29ábYEáaKAFáaLAM(ádMáaNOONábSEEábAI)ácFáaSAD*ácQ~1EE34&âdH%ácTâcH<ádK~1EE39(ácD~1EE3B+ádGH",
  "~1EE42;udTAILED J~1EE47àaHAH~1EE49àbYE~1EE4BàaLAM~1EE4DàaNOONàbSEEàbAI~1EE51àaSADàaQAF~1EE54%ádH",
  "~1EE57+àdK~1EE59%àcD~1EE5B(àdGH~1EE5D+àeDOTLESS ~1EE5FèaQAF~1EE61;ucSTRETCHED BãaJEEM~1EE64!ãcH",
  "~1EE67äbAãcTãbYEãaKAF~1EE6C(ãdMãaNOONãbSEEãbAI(ãcFãaSAD)ãcQ~1EE74&ädH%ãcTäcH<ãdK~1EE79(ãcD!ãcZ",
  ",ãdGH&ãcDOTLESS B~1EE7EëcF~1EE80uaLOOPED ALEFàaBEHàaJEEMàaDAL$àcHàaWAWàaZAIN$ábAàcTàbYE~1EE8BàaLAM",
  "+àdMàaNOONàbSEE*àd(àcFàaSADàaQAF$àcR(ádH!àcTácH=àdK!âaAL*àcD$àcZ:àdGH~1EEA1(ucDOUBLE-STRUCK B",
  "çaJEEMçaDAL~1EEA5çaWAWçaZAINçaHAHçcTçbYE~1EEABçaLAM*çdMçaNOONçbSEE*çd(çcFçaSADçaQAF$çcR(èdH!çcTècH",
  "=çdK!éaAL*çcD$çcZ:çdGH~1EEF0uaOPERATOR MEEM WITH HAH WITH TATWEELâbHAH WITH DA"]

end Conductor.CharName
