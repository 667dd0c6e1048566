/-! The names of tiles, pictographs, tags and variation selectors. -/

namespace Conductor.CharName

def pictures : List String := [
  "~1F000aaMAHJONG TILE EAST WINDnfSOUTH!nhWE!nhNORnaRED DRAGONnhGREENnhWHITEnaONE OF CHARACTERSnoTWO",
  "ooHREEnoFOURooIVEnoSIXooEVENnoEIGHT*nqNI+ubBAMBOOnlTWOolHREEnlFOURolIVEnlSIXolEVENnlEIGHT*nnNI",
  "+ubCIRCLEnlTWOolHREEnlFOURolIVEnlSIXolEVENnlEIGHT*nnNInaPLUMnaORCHIDnaBAMBOO$ncCHRYSANTHEMnaSPRING",
  "oaUMMERnaAUTUMN!ncWINTncJOK)paCK~1F030afDOMINO TILE HORIZONTALwa-00-00àa1àa2àa3àa4àa5àa6)yd1àa1àa2",
  "àa3àa4àa5àa6)yd2àa1àa2àa3àa4àa5àa6)yd3àa1àa2àa3àa4àa5àa6)yd4àa1àa2àa3àa4àa5àa6)yd5àa1àa2àa3àa4àa5",
  "àa6)yd6àa1àa2àa3àa4àa5àa6maVERTICAL BACKua-00-00za1za2za3za4za5za6)wd1za1za2za3za4za5za6)wd2za1za2",
  "za3za4za5za6)wd3za1za2za3za4za5za6)wd4za1za2za3za4za5za6)wd5za1za2za3za4za5za6)wd6za1za2za3za4za5",
  "za6~1F0A0aaPLAYING CARD BACKnaACE OF SPADESnkTWOokHREEnkFOURokIVEnkSIXokEVENnkEIGHTnkNINE$nmT",
  "nkJACK%noKN$nmQUEnkKING~1F0B1<ubHEARTnkTWOokHREEnkFOURokIVEnkSIXokEVENnkEIGHTnkNINE$nmTnkJACK%noKN",
  "$nmQUEnkKINGnaRED JOKER~1F0C1=ubDIAMONDnmTWOomHREEnmFOURomIVEnmSIXomEVENnmEIGHTnmNINE$noTnmJACK",
  "%nqKN$noQUEnmKING=ngBLACK~1F0D1=ubCLUBnjTWOojHREEnjFOURojIVEnjSIXojEVENnjEIGHTnjNINE$nlTnjJACK",
  "%nnKN$nlQUEnjKING=ngWHITE:paOLnaTRUMP-1ta2ta3ta4ta5ta6ta7ta8ta9ta10ua1ua2ua3ua4ua5ua6ua7ua8ua9ta20",
  "ua1~1F100aaDIGIT ZERO FULL STOPlaCOMMAggONEggTWOhgHREEggFOURhgIVEggSIXhgEVENggEIGHT*giNI",
  "caNGBAT CIRCLED SANS-SERIF DIGIT ZEROiâNEGATIVE aaCIRCLED ZERO WITH SLASHiaANTICLOCKWISE ARROW",
  "!ifDOLLAR SIGN WITH OVERLAID BACKaaPARENTHESIZED LATIN CAPITAL LETTER AèaBèaCèaDèaEèaFèaGèaHèaIèaJ",
  "èaKèaLèaMèaNèaOèaPèaQèaRèaSèaTèaUèaVèaWèaXèaYèaZ*azTORTOISE SHELL BRACKET",
  "aaCIRCLED ITALIC LATIN CAPITAL LETTER CéaRiaCDiaWZbaOPYLEFT SYMBOLaaSQUARED LATIN CAPITAL LETTER A",
  "âaBâaCâaDâaEâaFâaGâaHâaIâaJâaKâaLâaMâaNâaOâaPâaQâaRâaSâaTâaUâaVâaWâaXâaYâaZiaHVibMiaSDjaSiaPPViaWC",
  "aaNEGATIVE CIRCLED LATIN CAPITAL LETTER AëaBëaCëaDëaEëaFëaGëaHëaIëaJëaKëaLëaMëaNëaOëaPëaQëaRëaSëaT",
  "ëaUëaVëaWëaXëaYëaZaaRAISED MC SIGNifDifRaaCIRCLED CCja WITH OVERLAID BACKSLASHiaHUMAN FIGURE",
  ")jaSQUARED LATIN CAPITAL LETTER AëaBëaCëaDëaEëaFëaGëaHëaIëaJëaKëaLëaMëaNëaOëaPëaQëaRëaSëaTëaUëaV",
  "ëaWëaXëaYëaZ.aìCROSSED !raICraPArbSraABraWCaaSQUARE DJgaD CLjbOOiaFREEiaIDiaNEWjaGiaOKiaSOS",
  "iaUP WITH EXCLAMATION MARKiaVSiaTHREE DiaSECOND SCREENiaTWO KicFOURicEIGHT;jbIVE POINT ONikSEVEN",
  "&kaENTY-TWO POINT TWOiaSIXTY PieONE HUNDRED TWEN,icLATIN SMALL LETTERiaHCjaDRjaI-RESibLOSSLESiaSHV",
  "iaUHDibVOaaMASK WORK SYMBOL~1F1E6aaREGIONAL INDICATOR SYMBOL LETTER AæaBæaCæaDæaEæaFæaGæaHæaIæaJ",
  "æaKæaLæaMæaNæaOæaPæaQæaRæaSæaTæaUæaVæaWæaXæaYæaZaaSQUARE HIRAGANA HOKAgaD KATAKANA KOKOraSA",
  "~1F210iaCJK UNIFIED IDEOGRAPH-624Bãa5B57äa3CC%raDE!ãb4E8ãa591Aãa89E3!åa29%åaA4ãa6620ãa7121ãa6599",
  "ãa524DäaF8Cäa18D%åaB0%åb1ãa7D42äa51Fãa8CA9ãa58F0äa439ãa6F14äa295äb35ãa4E00æa9ãa904Aãa5DE6$åa2D",
  "ãa53F3)åa07ãa8D70,åa53ãa7981äaA7A=åa08ãa6E80äa709æa8ãa7533ãa5272äa5B6ãa914D",
  "~1F240aaTORTOISE SHELL BRACKETED CJK UNIFIED IDEOGRAPH-672Côa4E09öa8Côa5B89ôb70Bôa6253ôa76D7ôa52DD",
  "ôa6557~1F250aaCIRCLED IDEOGRAPH ADVANTAGEtaCCEPT~1F260aaROUNDED SYMBOL FOR FUtbLtbSHOtaXItcSHUANG",
  "tbCA~1F300*bbYCLONaaFOGGYaaCLOSED UMBRELLAaaNIGHT WITH STARSabSUNRISE OVER MOUNTAINha",
  ";caTYSCAPE AT DUSK$dbSET OVER BUILDINGaaRAINBOWaaBRIDGE AT NIGHTaaWATER WAVEaaVOLCANOaaMILKY WAY",
  "aaEARTH GLOBE EUROPE-AFRICAmaAMERICASnaSIA-AUSTRALIA:acGLOBE WITH MERIDIAaaNEW MOON SYMBOL",
  "amWAXING CRESCENTamFIRST QUARTER!hmGIBBOUSamFULL!cxN%awLA(cyNaaCRESCENT MOON+jaWITH FACE",
  "*taWITH FACEazLAapFULLalSU=daWING STARaiSHOOTabTHERMOMETEaaBLACK DROPLETaaWHITE SUN",
  "ja WITH SMALL CLOUDkgBEHINDwa WITH RAINaplaSNOWlaLIGHTNINGlaTORNADOaaFOG<afWIND BLOWING!acHOT D",
  "aaTACOabBURRITaaCHESTNUT*adSEEDLaaEVERGREEN TREEafDECIDUOUSafPALMaaCACTUS+eaPEPPERaaTULIP",
  "*daRRY BLOSSOMaaROSE&acHIBISC&acSUNFLOW%ah.bbAR OF MAIZhbRICaaHERB&acFOUR LEAF CLOVaaMAPLE LEAF",
  "afFALLENaaLEAF FLUTTERING IN WIND*acMUSHROaaTOMATOaaAUBERGINEaaGRAPESaaMELONafWATER%adTANGER!acLEM",
  "aaBANANAaaPINEAPPLEafRED agGREENaaPEARdaCH.acCHERRIaaSTRAWBERRYaaHAMBURGERaaSLICE OF PIZZA",
  ":acMEAT ON BOaaPOULTRY LEG%acRICE CRACKfaBALLaaCOOKED RICEbgURRY AN+caEAMING BOWLbaPAGHETTIaaBREAD",
  ";aeFRENCH FaaROASTED SWEET POTATOabDANGaaODEN(bbUSH&caIED SHRIMPbaISH CAKE WITH SWIRL DESIGN",
  "aaSOFT ICE CREAM:adSHAVED !ajaaDOUGHNUT>ebIbaHOCOLATE BARbaANDYaaLOLLIPOPaaCUSTARDaaHONEY POT",
  "+cbORTCAKaaBENTO BOXaaPOT OF FOOD+faNGaaFORK AND KNIFEabTEACUP WITHOUT HANDLaaSAKE BOTTLE AND CUP",
  "aaWINE GLASSagCOCKTAILaaTROPICAL DRINK+caER MUG$bbLINKING BEER MUG)acBABY BOTT+oa WITH PLATE",
  "aaBOTTLE WITH POPPING CORK;caPCORNabRIBBOaaWRAPPED PRESENT(bbIRTHDAY CAK%acJACK-O-LANTE",
  "aaCHRISTMAS TREEaaFATHER CHRISTMASbbIREWORKia SPARKLER*acBALLO!acPARTY POPPaaCONFETTI BALL",
  ")afTANABATAaaCROSSED FLAGS&acPINE DECORATI.caPANESE DOLLS(acCARP STREAMaaWIND CHIME",
  "aaMOON VIEWING CEREMONYaaSCHOOL SATCHELaaGRADUATION CAPaaHEART WITH TIP ON THE LEFT",
  "aaBOUQUET OF FLOWERSaaMILITARY MEDAL,acREMINDER RIBBaaMUSICAL KEYBOARD WITH JACKS",
  "aaSTUDIO MICROPHONE.acLEVEL SLID=bbONTROL KNOBabBEAMED ASCENDING MUSICAL NOTEhwDEacFILM FRAM",
  "abADMISSION TICKETaaCAROUSEL HORSE=acFERRIS WHE*acROLLER COAST&caSHING POLE AND FISH.ak",
  "baOVIE CAMERAabCINEM$afHEADabARTIST PALETTaaTOP HATabCIRCUS TENabTICKEaaCLAPPER BOARD",
  "<acPERFORMING ARaaVIDEO GAMEaaDIRECT HIT+acSLOT MACHIaaBILLIARDSaaGAME DIEaaBOWLING",
  "$aeFLOWER PLAYING C;acMUSICAL NOcaLTIPLE MUSICAL NOTES>afSAXOaaGUITAR%iaKEYBOARD=bcRUMP;caOLIN",
  ")ibSCORaaRUNNING SHIRT WITH SASHaaTENNIS RACQUET AND BALLaaSKI AND SKI BOOTaaBASKETBALL AND HOOP",
  "aaCHEQUERED FLAGaaSNOWBOARDER(eaERacSURFbaPORTS MEDAL:caOPHYaaHORSE RACING,aeAMERICAN FOOTajRUGBY",
  "(bcWIMMacWEIGHT LIFTacGOLFaaRACING MOTORCYCLEhaCAR(aeCRICKET BAT AND aeVOLLEY!ajFIELD HOCKEY STICK",
  "aaICE HOCKEY STICK AND PUCK!ajTABLE TENNIS PADDLEaaSNOW CAPPED MOUNTAIN<adCAMP",
  "aaBEACH WITH UMBRELLAbaUILDING CONSTRUCTIONaaHOUSE BUILDINGSaaCITYSCAPE&adDERELICT HOUSE BUILD",
  "ajCLASSICAL!caSERTga ISLANDaaNATIONAL PARKaaSTADIUM(aogaWITH GARDEN!akOFFICaaJAPANESE POST OFFICE",
  "amEUROPEAN%caSPITALaaBANKaaAUTOMATED TELLER MACHINE$cbTEafLOVE aaCONVENIENCE STOREaaSCHOOL",
  "!agDEPARTMENTaaFACTORYaaIZAKAYA LANTERN:jbCASTL:jbCASTLaaWHITE PENNANTaiBLACKaaWAVING WHITE FLAG",
  "hfBLACKaaROSETTEahBLACK <bcABaaBADMINTON RACQUET AND SHUTTLECOCKbaOW AND ARROWaaAMPHORA",
  "aaEMOJI MODIFIER FITZPATRICK TYPE-1-2åa3åa4åa5åa6aaRATaaMOUSEaaOX=caTER BUFFALO.acCaaTIGER",
  "aaLEOPARD)cbBBIabCAaaDRAGONaaCROCODILEacWHAaaSNAILdaKEabHORS*caM*acGOaaSHEEPaaMONKEY<acROOST",
  "aaCHICKENaaDOGabPIaaBOARaaELEPHANTaaOCTOPUS<bbPIRAL SHELaaBUG%ad=cbNEYBEabLADY BEETLaaFISH",
  "aeTROPICAL aeBLOW%adTURaaHATCHING CHICKagBABYakFRONT-FACING aaBIRDaaPENGUINaaKOALA)acPOOD",
  "aaDROMEDARY CAMELagBACTRIAN&acDOLPHaaMOUSE FACEafCOWafTIGERafRABBITagCAafDRAGONabSPOUTING WHAL",
  ")ahHOR*cfNKEYafDOGagPIagFRO,ahHAMSTafWOLFafBEARafPANDA(ebNOSbaAW PRINTSaaCHIPMUNKaaEYESdabaAR(ae",
  "=caUTHaaTONGUEaaWHITE UP POINTING BACKHAND INDEXgyDOWNgyLEFTgzRIGHaaFISTED HAND SIGNakWAVINGakOK",
  "afTHUMBS UPhfDOWNafCLAPPING HANDSalOPENabCROWaaWOMANS HATaaEYEGLASSESaaNECKTIEaaT-SHIRTaaJEANS",
  "abDRESaaKIMONOaaBIKINI*haCLOTHESaaPURSEaaHANDBAGaaPOUCHaaMANS SHOEafATHLETICafHIGH-HEELED)haSANDAL",
  "haBOOTSacFOOTPRINaaBUST IN SILHOUETTEeoSbaOYaaGIRL,da)faaaFAMILY$da AND WOMAN HOLDING HANDS",
  "apTWO MEerWOaaPOLICE OFFICER;fb WITH BUNNY EARaaBRIDE WITH VEIL$bbERSON WITH BLOND HAI",
  ")eaWITH GUA PI MAOjaTURBANacOLDER MgdWO>bbAB+acCONSTRUCTION WORKaaPRINCESSaaJAPANESE OGREjaGOBLIN",
  "aaGHOST(ea ANGELaaEXTRATERRESTRIAL ALIEN)acALIEN MONSTaaIMPaaSKULLaaINFORMATION DESK PERSON",
  ";adGUARDS&acDANCaaLIPSTICKaaNAIL POLISHaaFACE MASSAGEaaHAIRCUT:caRBER POLEabSYRING,acPIaaKISS MARK",
  "<adLOVE LETaaRINGaaGEM STONE%eaaaBOUQUETabCOUPLE WITH HEAR&adWEDD!agBEATINGbgROKENaaTWO HEARTS",
  "$ajSPARKLajGROWaaHEART WITH ARROW&bgLUE$cgEENagYELLOWagPURPLE&laRIBBON+ahREVOLVING!gcDECORATI",
  "aaDIAMOND SHAPE WITH A DOT INSIDEaaELECTRIC LIGHT BULBaaANGER SYMBOLaaBOMB!ahSLEEPINGahCOLLISION",
  "ahSPLASHING SWEATaaDROPLET!ahDASHaaPILE OF POOaaFLEXED BICEPS$bhIZZY(caEECH BALLOONaiTHOUGHT",
  "aaWHITE FLOWER%ahHUNDRED POINTSaaMONEY BAGaaCURRENCY EXCHANGEaaHEAVY DOLLAR SIGNaaCREDIT CARD",
  "!afBANKNOTE WITH YENofDOLLARofEUROofPOUND*gaWITH WINGS&ajCHART WITH UPWARDS TREND ANDaaSEAT",
  ";acPERSONAL COMPUTaaBRIEFCASEaaMINIDISCaaFLOPPY DISK!aeOPTICAL aaDVD(acFILE FOLDalOPEN ",
  "aaPAGE WITH CURLfaFACING UPaaCALENDARaiTEAR-OFF !caRD INDEX=yallDOWNaaBAR CHART!bbLIPBOARaaPUSHPIN",
  "ahROUND ,cbPERCLI;acSTRAIGHT RULagTRIANGULARaaBOOKMARK TABS!acLEDGaaNOTEBOOK",
  "ia WITH DECORATIVE COVER!aeCLOSED afOPENahGREafBLUEagORANG+ebaaNAME BADGEaaSCROLLaaMEMO",
  ",adTELEPHONE RECEIacPAGaaFAX MACHINEaaSATELLITE ANTENNA$bcUBLIC ADDRESS LOUDSPEAK",
  "$acCHEERING MEGAPHOaaOUTBOX TRAYaiIN)caCKAGEaaE-MAIL SYMBOL$caCOMING ENVELOPE",
  "abENVELOPE WITH DOWNWARDS ARROW ABOVaaCLOSED MAILBOX WITH LOWERED FLAGuhRAISazOPENshLOWERaaPOSTBOX",
  "eaAL HORN<acNEWSPAP<afMOBILE ma WITH RIGHTWARDS ARROW AT LEFTaaVIBRATION MODE!naOFF",
  "aaNO MOBILE PHONESabANTENNA WITH BARaaCAMERAga WITH FLASH!agVIDEO aaTELEVISIONaaRADIO$faCASSETTE",
  "aaFILM PROJECTOR=caRTABLE STEREObaRAYER BEADSabTWISTED RIGHTWARDS ARROW",
  "ahCLOCKWISE RIGHTWARDS AND LEFTWARDS OPEN CIRCLEúa WITH CIRCLED ONE OVERLAY!kyDOWNWARDS AND UP",
  "a÷ANTIaaLOW BRIGHTNESS SYMBOLasHIGHaaSPEAKER WITH CANCELLATION STROKEha!nbONE SOUND WAV",
  "naTHREE SOUND WAVESaaBATTERYaaELECTRIC PLUGaaLEFT-POINTING MAGNIFYING GLASSaàRIGH",
  ",caCK WITH INK PEN<dbSED LOCK WITH KEad$eaaeOPEN aaBELL<azBELLbaOOKMARKaaLINK SYMBOLaaRADIO BUTTON",
  "%bbACK WITH LEFTWARDS ARROW ABOVaàENDamON WITH EXCLAMATION MARK WITH LEFT RIGHT!asSOON WITH RIGH",
  "arTOP WITH UP)ahNO ONE UNDER EIGHTEEN<daCAP TENaaINPUT SYMBOL FOR LATIN CAPITAL LETTERSxjSMAL",
  "rdNUMBrbSYMBOL$xhaaFIREaaELECTRIC TORCHacWRENaaHAMMERaaNUT AND BOLTaaHOCHO;acPISTaaMICROSCOPE",
  "afTELEaaCRYSTAL BALLaaSIX POINTED STAR WITH MIDDLE DOT*acJAPANESE SYMBOL FOR BEGINN",
  "aaTRIDENT EMBLEMaaBLACK SQUARE BUTTONaoWHITEaaLARGE RED CIRCLEghBLUEgaORANGE DIAMONDgjBLU!apSMALL",
  "gjBLU&acUP-POINTING RED TRIANGawDOWN!mmSMALL aáDOWN+biOWER RIGHT SHADOWED WHITaãUPP",
  "abCIRCLED CROSS POMMEbaROSS POMMEE WITH HALF-CIRCLE BELOWma",
  "aaNOTCHED LEFT SEMICIRCLE WITH THREE DOTSiáRIGHaaSYMBOL FOR MARKS CHAPTERaaWHITE LATIN CROSS",
  "amHEAVYagCELTICaaOM SYMBOL;cbVE OF PEACaaKAABAaaMOSQUEacSYNAGOGaaMENORAH WITH NINE BRANCHES",
  "aaBOWL OF HYGIEIAaaCLOCK FACE ONE OCLOCKlhTWOmhHREElhFOURmhIVElhSIXmhEVENlhEIGHT*ljNI$ljT%llEL",
  ")ljTWEL:oa-THIRTYlhTWOmhHREElhFOURmhIVElhSIXmhEVENlhEIGHT*ljNI$ljT%llEL)ljTWELaaRIGHT SPEAKER",
  "na WITH ONE SOUND WAVEtaTHREE SOUND WAVESaaBULLHORN!amBULLHORN WITH$caNGING BELLaaBOOKaaCANDLE",
  "aaMANTELPIECE CLOCK&bcLACK SKULL AND CROSSBONaaNO PIRACY%acHO%da IN BUSINESS SUIT LEVITATING",
  "aaSLEUTH OR SPY&acDARK SUNGLASS=acSPIDga WEB+acJOYSTI(edDANC%acLEFT HAND TELEPHONE RECEIV",
  "aaTELEPHONE RECEIVER WITH PAGE!azRIGHaaWHITE TOUCHTONE TELEPHONEauBLACK%kaON TOP OF MODEM",
  "!afCLAMSHELL MOBILE abBACK OF ENVELOPajSTAMPED,adENVELOPE WITH LIGHTN!ajFLYING$aqPEN OVER ",
  "aaLINKED PAPERCLIPS+gaPUSHPINaaLOWER LEFT PENCILlaBALLPOINT PENleFOUNTAINlaPAINTBRUSHlaCRAYON",
  "baEFT WRITING HANDaaTURNED OK HAND SIGNaaRAISED HAND WITH FINGERS SPLAYEDbäEVERSED R",
  "jaTHUMBS UP SIGNqfDOWNjaVICTORY HANDjbHAND WITH MIDDLE FINGER EXTENDE",
  "(raPART BETWEEN MIDDLE AND RING FINGERSaaWHITE DOWN POINTING LEFT HAND INDEX",
  "agSIDEWAYS WHITE LEFT POINTINGpqRIGH!juBLACKpqRIGH&akBLACK LEFT POINTING BACKgzRIGH&ppUPppDOWN",
  "&ppUPppDOWN&gyUPgyDOWNgaHEARTaaDESKTOP COMPUTERaaKEYBOARD AND MOUSEaaTHREE NETWORKED COMPUTERS",
  "$adPRINbbOCKET CALCULATO(haARD SHELL FLOPPY DISKaxWHITEasSOFTaaTAPE CARTRIDGEaaWIRED KEYBOARD",
  "+agONE BUTTONanTWObnHREEbaRACKBALL<ajOLD PERSONAL*afHARDaaSCREEN<ha ICONafFAXafOPTICAL DISC",
  "aaDOCUMENT WITH TEXTsa AND PICTUREohanFRAMElaTILESlaAN X:acBLACK FOLDagagOPEN ",
  "aaCARD INDEX DIVIDERSfaFILE BOXaaFILE CABINETaaEMPTY NOTEka PAGEnaD$ae$ajhaD%gaDOCUMENT(gekaS$ai",
  "$aeeaS;acWASTEBASK.ajSPIRALheCALENDARaaDESKTOP WINDOWaaMINIMIZEbfAXaaOVERLAP",
  "aaCLOCKWISE RIGHT AND LEFT SEMICIRCLE ARROWSbaANCELLATION XaaINCREASE FONT SIZE SYMBOLaxDE",
  "aaCOMPRESSIONaaOLD KEYaaROLLED-UP NEWSPAPER=ea WITH CIRCLED TEXTabSTOCK CHARaaDAGGER KNIFEaaLIPS",
  ">caEAKING HEAD IN SILHOUETTEabTHREE RAYS ABOVlaBELOWlaLEFTlbRIGHaaLEFT SPEECH BUBBLEapRIGH",
  "aaTWO SPEECH BUBBLESbpHREE%fhTHOUGHTaqRIGH!fhANGERaoRIGHahMOODalLIGHTNING oa",
  "aaBALLOT BOX WITH BALLOThaSCRIPT XhiBOX WITH jjLD!qiBOLD (fa CHECK MARK!vaCHECKaaWORLD MAP",
  ".caUNT FUJIaaTOKYO TOWERaaSTATUE OF LIBERTYbaILHOUETTE OF JAPAN%cbYAaaGRINNING FACE",
  "na WITH SMILING EYESaaFACE WITH TEARS OF JOYaaSMILING FACE WITH OPEN MOUTHáa AND SMILING EYES",
  "æaCOLD SWEAT!æfTIGHTLY-CLOSEDsaHALOtaORNS+aiWINK(sm+faSAVOURING DELICIOUS FOOD$afRELIEVED",
  ")shHEART-SHAPscSUNGLASS(ajSMIRafNEUTRALafEXPRESSIONLESS(ahUNAMUS<alFACE WITH!afPENSIVE$ajCONF",
  "ehOUND*aiKISS&faTHROWING A KISS=aßKISSsfCLOSED*kaSTUCK-OUT TONGUEßa AND WINKING EYE",
  "äaTIGHTLY-CLOSED EYES*ahDISAPPOINTahWORRIafANGRY,aiPOUTaiCRYaiPERSEVER)kaLOOK OF TRIUMPH",
  ")neBUT RELIEVED !bbROWNING FACE WITH OPEN MOUT)dfUISHEDafFEARFUL+ahWEAagSLEEP%ahTIR+aiGRIMAC",
  ".alLOUDLY *bt*ajHU!ua AND COLD SWEATfaSCREAMING IN FEAR.bkSTONajFLU,ffING>cfZZY*jgOUT",
  "ja MEDICAL MASK:daNNING CAT FACE WITH SMILING EYESaaCAT FACE WITH TEARS OF JOY:auSMILING CAT ",
  "waHEART-SHAPED EYES$oaWRY SMILE!ahKISSING CAT FACE WITH CLOS+afPOUTING CATamCRYajWEARY",
  ";ciIGHTLY FROWNjiSMILafUPSIDE-DOWN;kaROLLING EYESkaNO GOOD GESTUREkiOKaaPERSON BOWING DEEPLY",
  "abSEE-NO-EVIL MONKEapHEARapSPEAKaaHAPPY PERSON RAISING ONE HAND",
  "&haRAISING BOTH HANDS IN CELEBRATIONhaFROWNINGhaWITH POUTING FACEmaFOLDED HANDS",
  "aaNORTH WEST POINTING LEAFavSOU!gqEAavSOU%ayTURNED hvSOU!nqEAhvSOU*ueVINE aßSOU!gvEA!gvEA%aâHEAVY ",
  "gßSOU!mvEA!mvEA*uaBUDauSOU!gpEAauSOU*ßaBUDguSOU!mpEAguSOUbaOLLOW QUILT SQUARE ORNAMENT",
  "áa IN BLACK SQUARE!awSOLID!aëSOLIDaaLEFTWARDS ROCKETamUPamRIGHTamDOWN(bjCRIPT LIGATURE ETaàHEAVY ",
  "amLIGATURE OPENazHEAVY gjAMPERSANDatSWASHbjANS-SERIF HEAVY DOUBLE TURNED COMMA QUOTATION MARKyâ",
  "réLOW &gjINTERROBANGavSANS-SERIFaäHEAVY aaVERY HEAVY SOLIDUSlhREVERSE aaCHECKER BOARDanREVERSE ",
  "baOCKET(caLICOPTERaaSTEAM LOCOMOTIVEaaRAILWAY CARaaHIGH-SPEED TRAINqa WITH BULLET NOSE!afaaMETRO",
  "aaLIGHT RAIL)caATION%daMea CAR=acBadONCOMING adTROLLEY$da STOP!adMINIaaAMBULANCEabFIRE ENGIN",
  "*aePOLICEakONCOMING aaTAXI!jaTAXI(bbUTOMOBILakONCOMING acRECREATIONAL VEHICaaDELIVERY TRUCK",
  "aaARTICULATED LORRY<caACTORaaMONORAILcaUNTAIN RAILWAYajSUSPENSIO!jdCABLEadAERIAL TRAMaaSHIP",
  "aaROWBOATaeSPEEDabHORIZONTAL TRAFFIC LIGHaqVERTICaaCONSTRUCTION SIGN!agPOLICE CARS REVOLVING",
  "abTRIANGULAR FLAG ON POS<acDO%afNO ENTRYaaSMOKING SYMBOLaoNO ahPUT LITTER IN ITS PLACE",
  "ahDO NOT LITTERakPOTABLE WAauNON-aaBICYCLE(daBICYCLES!gaISTajMOUNTAIN aaPEDESTRIAN%dbPEDESTRIAN",
  "aaCHILDREN CROSSING*ahMENSalWOaaRESTROOM!ahBABYaaTOILETacWATER CLOSaaSHOWER%caTHeaTUB",
  "(acPASSPORT CONTRaaCUSTOMS$caGGAGE CLAIMaaLEFT LUGGAGEaaTRIANGLE WITH ROUNDED CORNERS",
  "aaPROHIBITED SIGNaaCIRCLED INFORMATION SOURCE;bhOYSaiGIRLaaCOUCH AND LAMPaaSLEEPING ACCOMMODATION",
  "<daPPING BAGS&bbELLHOP BELcaDaaPLACE OF WORSHIP,afOCTAGONAL&jaTROLLEYbaTUPAabPAGODaaHINDU TEMPLE",
  "baUTaaELEVATOR~1F6DD*daYGROUND SLIDEaaWHEELaaRING BUOYaaHAMMER AND WRENCH,caIELDaaOIL DRUM",
  "aaMOTORWAYaaRAILWAY TRACK!fa BOATaaUP-POINTING MILITARY AIRPLANEmimiSMALL ao$asNORTHEAST",
  "abAIRPLANE DEPARTURjaARRIVING~1F6F0%bbATELLITabONCOMING FIRE ENGINabDIESEL LOCOMOTIV",
  "aaPASSENGER SHIPaaSCOOTERahMOTOR aaCANOEaaSLED$acFLYING SAUC!bbKATEBOARaaAUTO RICKSHAW",
  "aaPICKUP TRUCK:acROLLER SKA~1F700abALCHEMICAL SYMBOL FOR QUINTESSENCwaAIRwaFIREwaEARTHwaWATER",
  "waAQUAFORTISßa REGIAåa-2àaVITAEåa-2waVINEGARâa-2ãa3waSULFURwgPHILOSOPHERS whBLACK",
  "waMERCURY SUBLIMATEìa-2ía3+wcCINNABwaSALTwaNITRE,yaTRIOLâa-2%weROCK äa-2waGOLD<xbILVE)wcIRON Oãa-2",
  "waCROCUS OF IRONwkREGUL%weCOPPERwkIRON-)xcUBLIMATE OF COPPwkCROCUSëa-2&âbANTIMONIATwsSALT OF ",
  "&ègSALT OF waVERDIGRIS;wfTIweLEADweANTIMONY&èaANTIMONYxmALT!èiSALT OF wmVINEGARwmREGULUSîa-2âa!âc",
  "ãa3ãa4waALKALIáa-2waMARCASITE:za-AMMONIACwbARSENI(yaALGARâa-2waAURIPIGMENTwaBISMUTH ORE%wcTARTáa-2",
  "waQUICK LIMEwaBORAXàa-2áa3<yaUMwaOILwaSPIRIT,wcTINCTU%wcG*wcWwaPOWDERwaCALXwaTUTTY!yaPUT MORTUUM",
  "waSCEPTER OF JOVE!yaDUCEUSwaTRIDENTwhSTARRED waLODESTONEwaSOAP!wcURIwaHORSE DUNGwaASHESwfPOT ",
  "waBRICKwfPOWDERED waAMALGAMwbSTRATUM SUPER STRATUða-2xaUBLIMATIONwaPRECIPITATEwaDISTILLzaSOLVEãa-2",
  "waPURIFY(wePUTREFACwaCRUCIBLEãa-2äa3äa4äa5waALEMBICwaBATH OF MARYãaVAPOURSwaRETORTwaHOURwaNIGHT",
  "wfDAY-waMONTHwaHALF DRAMàaOUNCE~1F780abBLACK LEFT-POINTING ISOSCELES RIGHT TRIANGLgçUPgçRIGHT",
  "gçDOWNgcSLIGHTLY SMALL CIRCahMEDIUM BOLD WHITEaranHEAVYasVERY auEXTREMEL",
  "(anWHITE CIRCLE CONTAINING BLACKaaROUND TARGET*gbTINY SQUAR+vbSQUARahLIGHT WHITEanMEDIUManBOLD",
  "anHEAVYasVERY ,wbSQUAR)aoWHITE SQUARE CONTAINING BLACK VERãhMEDIUM.ahSQUARE.laDIAMONDgiVERY SMALL",
  "goMEDIUM!ayWHITE DIAMOND CONTAINING äiMEDIUM(ahDIAMOND(laLOZENGE(raLOZENGEgoMEDIUM",
  "aoWHITE LOZENGE CONTAINING BLACKaaTHIN GREEK CROSSamLIGHTamMEDIUMamBOLDaqVERY fmHEAVYatEXTREMEL",
  ")faSALTIREaiLIGHTaiMEDIUMaiBOLDaiHEAVYanVERY apEXTREMEL(gaFIVE SPOKED ASTERISKavMEDIUMavBOLD",
  "avHEAVYaßVERY aáEXTREMEL(gqSIX(hqSIXauBOLD(gqSIX(lqSIX(qqSIX(gqEIGHTawMEDIUMawBOLDawHEAVYaàVERY ",
  "&gaTHREE POINTED BLACK STARazMEDIUMay!vfPINWHEEL%gtFOUR%htFOURax%hwFOURaàREVERSE LIGHT&htIVE",
  "ayHEAVY(htSIX!gtSIX&awSIX$htEIGHTazHEAVYaãVERY !ufPINWHEEL+gvTWEL+gvTWEL$gwTWELVE",
  "aaCIRCLED TRIANGLEaqNEGATIVE !ibSQUAR!rbSQUAR~1F7E0abLARGE ORANGE CIRCLghYELLOWghGREENghPURPLE",
  "ghBROWN(ajLARGE RghBLUEgiORANGghYELLOWghGREENghPURPLEghBROWN~1F7F0aaHEAVY EQUALS SIGN",
  "~1F800aaLEFTWARDS ARROW WITH SMALL TRIANGLE ARROWHEADaîUPaîRIGHTaîDOWN%vtMEDIUMaïUPaïRIGHTaïDOWN",
  "%vtLARGEaîUPaîRIGHTaîDOWN~1F810:àkEQUILATERALañUPañRIGHTañDOWN%vv%tv%wv%vv%aïHEAVY gëUPgëRIGHT",
  "gëDOWN%àvLARGE gñUPgñRIGHTgñDOWN:kaTRIANGLE-HEADED ARROW WITH NARROW SHAFTaòUPaòRIGHTaòDOWN",
  "%êgMEDIUMaòUPaòRIGHTaòDOWN%êgBOLDaðUPaðRIGHTaðDOWN%êgHEAVYañUPañRIGHTañDOWN%êlVERY aöUPaöRIGHT",
  "aöDOWN%kaFINGER-POST ARROWaxUPaxRIGHTaxDOWN%kgSQUAREDatUPatRIGHTatDOWN%kiCOMPRESSawUPawRIGHTawDOWN",
  "%kqHEAVY aáUPaáRIGHTaáDOWN%qf%of%rf%qf~1F850>lgANS-SERIFawUPawRIGHTawDOWNarNORTH WESTgtEAaySOUgtWE",
  "*er RIGHT*cr DOWN~1F860agWIDE-HEADED LEFTWARDS LIGHT BARBmwUPmwRIGHTmwDOWNmrNORTH WESTstEAmySOU",
  "stWE*wk*uk*xk*wk*xk*xk*xk*xk>wlMEDIUMmxUPmxRIGHTmxDOWN>xlMEDIUMsuEAmzSOUsuWE*wlHEAVYmwUPmwRIGHT",
  "mwDOWN*xlHEAVYstEAmySOUstWE*wqVERY màUPmàRIGHTmàDOWN*xqVERY syEAmâSOUsyWE",
  "~1F890aaLEFTWARDS TRIANGLE ARROWHEADayUPayRIGHTayDOWN%ksWHITE ARROW WITHIN aðUPaðRIGHTaðDOWN",
  "%kaARROW WITH NOTCHED TAILaâUPaâRIGHTaâDOWNaaHEAVY ARROW SHAFT WIDTH ONEyaTWO THIRDS!àa HALF",
  "áaTHIRD*kaBOTTOM-SHADED WHITE ARROWasRIGHTWARDS BOTTOM !ksTOP !ltTOP%ktLEFT!lsRIGHT-aäLEF!luLEF",
  "*loACK-TILTED SHADOWaìRIGH!káFRONTaíRIGH>awWHITE>aâWHITE",
  "~1F8B0aaARROW POINTING UPWARDS THEN NORTH WESTphRIGHTWARDS THEN CURVING SOU",
  "~1F900aaCIRCLED CROSS FORMEE WITH FOUR DOTSßfTWOua$aqLEFT HALF CIRCLwfTHREExfWOwaDOTqa",
  "aaDOWNWARD FACING HOOKqeNOTCHED !ua WITH DOTqnNOTCHED aaPINCHED FINGERS>gaHEARTagBROWN$faING HAND",
  "aaZIPPER-MOUTH FACEalMONEYaaFACE WITH THERMOMETER!afNERDafTHINKING$kaHEAD-BANDAGE!afROBOT$aiHUGG",
  "aaSIGN OF THE HORNS,afCALL MEafRAISED BACK OFaaLEFT-FACING FISTanRIGH(bbANDSHAK",
  "ea WITH INDEX AND MIDDLE FINGERS CROSSEDaaI LOVE YOU HAND SIGN.kaCOWBOY HAT,afCLOWN=bgAUSEATE",
  ";caLLING ON THE FLOOR LAUGHING;aiDROOLaiLY(faPALM!aiSNEEZ*kaONE EYEBROW RAISED",
  "aaGRINNING FACE WITH STAR EYEStaONE LARGE AND ONE SMALL EYE$kaFINGER COVERING CLOSED LIPS",
  "aaSERIOUS FACE WITH SYMBOLS COVERING MOUTHbpMILING FACE WITH SMILING EYES AND HAND",
  "(laPEN MOUTH VOMITINGaaSHOCKED FACE WITH EXPLODING HEADaaPREGNANT WOMAN$adBREAST-FEED",
  "aaPALMS UP TOGETHER)caLFIEabPRINCaaMAN IN TUXEDObaOTHER CHRISTMAS*caRUGaaPERSON DOING CARTWHEEL",
  "*adJUGGL*acFENC&caDERN PENTATHLONaaWRESTLERSbaATER POLOaaHANDBALLaaDIVING MASK(acWILTED FLOW",
  "aaDRUM WITH DRUMSTICKSabCLINKING GLASSEabTUMBLER GLAS+acSPOaaGOAL NETaaRIFLEaaFIRST PLACE MEDAL",
  "amSECONDanTHIRaaBOXING GLOVEaaMARTIAL ARTS UNIFORMaaCURLING STONE=aeLACROSSE STICK AND aeSOFT",
  "aaFLYING DISCaaCROISSANTaaAVOCADO(caCUMBER=acBACaaPOTATO&bbARRO$caGUETTE BREADacGREEN SAL",
  "abSHALLOW PAN OF FOO$afSTUFFED FLATaaEGGaaGLASS OF MILKaaPEANUTSaaKIWIFRUIT!bbANCAKEaaDUMPLING",
  "aaFORTUNE COOKIEaaTAKEOUT BOXaaCHOPSTICKS>bcOWL WITH SPOaaCUP WITH STRAWbaOCONUTaaBROCCOLI)acP",
  "baRETZEL%bbUT OF MEAaaSANDWICHaaCANNED FOODaaLEAFY GREENaaMANGObaOON CAKE)acBAG",
  "aaSMILING FACE WITH SMILING EYES AND THREE HEARTSaaYAWNING FACE!saTEAR",
  ",acFACE WITH PARTY HORN AND PARTY HkaUNEVEN EYES AND WAVY MOUTH%afOVERHEATED&aiFREEZaaNINJA",
  "$ahDISGUIS&faHOLDING BACK TEARS)laLEADING EYESaaSARI+acLAB CO$acGOGGLaaHIKING BOOT+bbLAT SHOaaCRAB",
  "+afLIONaaSCORPIONaaTURKEY$agUNICORabEAGLaaDUCK.acBaaSHARKaaOWL(afFOXaaBUTTERFLYaaDEER>caRILLA",
  ";caZARDaaRHINOCEROS*caRIMPbaQUID*afGIRAFFEafZEBRAaaHEDGEHOG%bbAUROPOaaT-REXaaCRICKETaaKANGAROO",
  "aaLLAMAaaPEACOCKaaHIPPOPOTAMUSaaPARROTaaRACCOONaaLOBSTERaaMOSQUITObaICROBE$acBADGaaSWANaaMAMMOTH",
  "aaDODO!adSL*adOTbaRANGUTANaaSKUNKaaFLAMINGO%bdYSacBEAVbaISONaaSEALaaGUIDE DOGaaPROBING CANE",
  "aaEMOJI COMPONENT RED HAIRqfCURLYqaBALD!qfWHITE&acBOaaLEGaaFOOTaaTOOTHaaSUPERHEROfaVILLAIN",
  "baAFETY VEST+bbAR WITH HEARING AI+aeMOTORIZED WHEELCblANUALbaECHANICAL ARMlaLEGaaCHEESE WEDGE",
  "bbUPCAK*caLT SHAKERaaBEVERAGE BOXaaGARLICaaONIONaaFALAFELaaWAFFLE(acBUTT:caTE DRINKaaICE CUBE",
  "$caBBLE TEAaaTROLL*acSTANDING PERSakKNEELahDEAF+acFACE WITH MONOCaaADULTaaCHILD!afOLDER &ahBEARDED",
  "aaPERSON WITH HEADSCARFhaIN STEAMY ROOMhaCLIMBING!kaLOTUS POSITION>caGE,caIRYaaVAMPIRE*agMERaaELF",
  "aaGENIEacZOMB:bbRAI<bbRANGE HEARaaBILLED CAP<afaaGLOVESaaCOATaaSOCKSaaRED GIFT ENVELOPE",
  "aaFIRECRACKERaaJIGSAW PUZZLE PIECEabTEST TUBaaPETRI DISHaaDNA DOUBLE HELIX*caMPASSabABACU",
  ")ec EXTINGUISHaaTOOLBOXaaBRICKaaMAGNETaaLUGGAGEbbOTION BOTTLaaSPOOL OF THREADaaBALL OF YARN",
  "abSAFETY PI<caDDY BEAR*caOOMbaASKET:acROLL OF PAP!caR OF SOAP*daNGEaaRECEIPTabNAZAR AMULE",
  "baEUTRAL CHESS KINGoaQUEENoaROOKoaBISHOPoaKNIGHToaPAWN",
  "aaWHITE CHESS KNIGHT ROTATED FORTY-FIVE DEGREESaíBLACKaíNEUTRAL$niING ROTATED NINETYmxQUEENmxROOK",
  "mxBISHOPmxKNIGHTmxPAWN(açBLACKmxQUEENmxROOKmxBISHOPmxKNIGHTmxPAWN(açNEUTRALoxQUEENoxROOKoxBISHOP",
  "oxKNIGHToxPAWN<àiONE HUNDRED THIRTY-FIVEaúBLACKaúNEUTRAL$maTURNED KINGtaQUEENtaROOKtaBISHOP",
  "taKNIGHTtaPAWN(asBLACKtaQUEENtaROOKtaBISHOPtaKNIGHTtaPAWN(asNEUTRALvaQUEENvaROOKvaBISHOPvaKNIGHT",
  "vaPAWN;maKNIGHT ROTATED TWO HUNDRED TWENTY-FIVE DEGREESaúBLACKaúNEUTRAL",
  "$niING ROTATED TWO HUNDRED SEVENTYméQUEENméROOKméBISHOPméKNIGHTméPAWN(aôBLACKméQUEENméROOKméBISHOP",
  "méKNIGHTméPAWN(aôNEUTRALoéQUEENoéROOKoéBISHOPoéKNIGHToéPAWN<áiHREE HUNDRED FIFTEENaøBLACKaøNEUTRAL",
  "$maEQUIHOPPERarBLACKarNEUTRAL$wa ROTATED NINETY DEGREESaíBLACKaíNEUTRAL+sa-QUEENtaROOKtaBISHOP",
  "$atBLACKtaROOKtaBISHOP~1FA60aaXIANGQI RED GENERALmaMANDARINmaELEPHANTmaHORSEmaCHARIOTnaANNON",
  "maSOLDIER)iiBLACK)ijBLACK)ijBLACKoaHORSE)iiBLACKpaANNON)iiBLACK~1FA70aaBALLET SHOES",
  "aaONE-PIECE SWIMSUIT!bbRIEFabSHORT.acTHONG SAND~1FA78aaDROP OF BLOODaaADHESIVE BANDAGEabSTETHOSCOP",
  "aaX-RAYaaCRUTCH~1FA80aaYO-YOaaKITEacPARACHUaaBOOMERANGaaMAGIC WANDaaPINATAaaNESTING DOLLS",
  "~1FA90aaRINGED PLANETaaCHAIRabRAZO<bbXaaDIYA LAMPaaBANJO(acMILITARY HELMaaACCORDIONaaLONG DRUM",
  "aaCOINbaARPENTRY SAWaaSCREWDRIVERacLADDaaHOOK*caRRORaaWINDOW%acPLUNGaaSEWING NEEDLEaaKNOTabBUCKE",
  "aaMOUSE TRAPaaTOOTHBRUSHaaHEADSTONE)caACARDaaROCK.ga BALL$aeIDENTIFICATION aaLOW BATTERYaaHAMSA",
  "~1FAB0aaFLYaaWORM<acBEETaaCOCKROACHaaPOTTED PLANT%caODaaFEATHER+caTUS&caRALaaEMPTY NEST",
  "aaNEST WITH EGGS~1FAC0aaANATOMICAL HEART!acLUNaaPEOPLE HUGGINGbaREGNANT MANjbPERSO",
  "bbERSON WITH CROW~1FAD0aaBLUEBERRIESbaELL PEPPERaaOLIVEaaFLATBREADaaTAMALEabFONDUaaTEAPOT",
  "aaPOURING LIQUID)caANSaaJAR~1FAE0aaMELTING FACEajSALUaaFACE WITH OPEN EYES AND HAND OVER MOUTH",
  "kaPEEKING EYE!kgDIAGONAL%afDOTTED LINEaaBITING LIPbaUBBLES",
  "~1FAF0aaHAND WITH INDEX FINGER AND THUMB CROSSEDabRIGHTWARDS HANalLEFafPALM DOWNffUP",
  "aaINDEX POINTING AT THE VIEWERaaHEART HANDS~1FB00aaBLOCK SEXTANT-1oa2ob1oa3ob1ob2oc1oa4ob1ob2oc1",
  "ob3oc1oc2od1oa5ob1ob2oc1ob3oc2od1ob4oc1oc2od1oc3od1od2oe1oa6ob1ob2oc1ob3oc1oc2od1ob4oc1pc2oc3od1",
  "od2oe1ob5oc1oc2od1oc3od1od2oe1oc4od1od2oe1od3oe1oe2",
  "aaLOWER LEFT BLOCK DIAGONAL LOWER MIDDLE LEFT TO LOWER CENTREúaRIGHT!ßãUPPúaRIGHT!åu",
  "gjRIGHT BLOCK DIAGONAL UPPER MIDDLE LEFT TO UPPûaRIGHT!àãLOWûaRIGHT!æu!ûfMIDDLE æpCENTRE TO LOW",
  "æwLEFT!ðpUPP%æß!öf;ågCENTRE TO UPPER MIDDLEåwLEFT!ïpLOWåwLEFT!õf!åßMIDDLE ",
  ";ajUPPER RIGHT BLOCK DIAGONAL LOWER MIDDLE LEFT TO LOWûaRIGHT!àãUPPûaRIGHT!æu",
  "gjLEFT BLOCK DIAGONAL UPPER MIDDLE LEFT TO UPPúaRIGHT!ßãLOWúaRIGHT!åu!úfMIDDLE åpCENTRE TO LOW",
  "åwLEFT!ïpUPP%åß!õf;ægCENTRE TO UPPER MIDDLEæwLEFT!ðpLOWæwLEFT!öf!æßMIDDLE ",
  "gaAND RIGHT AND LOWER TRIANGULAR THREE QUARTERS BLOCKaåLEFT AND LOWER AND RIGHT!kðLEF!jñUPP",
  "fgTRIANGULAR ONE QUARTERaâUPPERaâRIGHT!aäLOWaaVERTICAL ONE EIGHTH BLOCK-2ßa3ßa4ßa5ßa6ßa7",
  "(avHORIZONTáa3áa4áa5áa6áa7>fgAND LOWER ONE EIGHTHjtUPPaáRIGHktLOWaàUPPER(áa1358!ggONE QUARTER",
  "ggTHREE EIGHTHSgpFIV!mhQUARTER!goSEVEN&asRIGHT&auRIGHTgpFIV&avRIGHT!goSEVEN=faHALF MEDIUM SHADE",
  "atRIGHasUPPERauLOWanINVERSE$lmBLOCK AND LOWER HALF INVERSE ",
  "laINVERSE MEDIUM SHADE AND LOWER HALF BLOCK~1FB94alLEFT HALF INVERSE MEDIUM SHADE AND RIGHT",
  "aaCHECKER BOARD FILLasINVERSE afHEAVY HORIZONTALafUPPER LEFT TO LOWER RIGHTggRIGHT TO LOWER LEF",
  ")gmAND LOWER TRIANGULAawLEFT AND RIGHT,gnLEFT TRIANGULARgzRIGHaåLOWgzLEF",
  "aaBOX DRAWINGS LIGHT DIAGONAL UPPER CENTRE TO MIDDLE LEFTøbRIGHáaMIDDLE LEFT TO LOWER CENTREèrRIGH",
  "%üa TO LOWER CENTREørRIGH%üa TO MIDDLE RIGHTðzUPP$øvLEFT AND MIDDLE %þpAND MIDDLE LEFT ",
  "þaTO LOWER CENTRE TO MIDDLE LEFT&áðUPPER CENTRE TO )áñMIDDLE LEFT TO +áðMIDDLE RIGHT TO áaDIAMOND",
  "taHORIZONTAL WITH VERTICAL STROKEaaARROWHEAD-SHAPED POINTERaaINVERSE CHECK MARK",
  "aaLEFT HALF RUNNING MANasRIGH$iaDOWNWARDS ARROW WITH TIP LEFTWARDS",
  "$eaWARDS ARROW AND UPPER AND LOWER ONE EIGHTH BLOCKaöRIGHarDOWNWARDS ARROW AND RIGHTaëUP)kaFOLDER",
  "anRIGHaaVOIDED GREEK CROSS!gaOPEN SQUARED DOT!agNEGATIVE DIAGONALsaMIDDLE RIGHT TO LOWER CENTRE",
  "saDIAMONDaaWHITE HEAVY SALTIRE WITH ROUNDED CORNERS*faTHIRD WHITE RIGHT POINTING INDEXaæMIDDLE",
  "aæRIGHT&jaSQUARED QUESTION MARK)acSTICK FIGUma WITH ARMS RAISEDnaLEANING LEFTvbRIGH$saDRESS",
  ",gaUP-POINTING CHEVRON~1FBF0aaSEGMENTED DIGIT ZEROqaONEqaTWOraHREEqaFOURraIVEqaSIXraEVENqaEIGHT",
  "*qcNI~E0001aaLANGUAGE TAG~E0020aaTAG SPACEeaEXCLAMATION MARKekQUOTeaNUMBER SIGNegDOLLAefPERCENT",
  "eaAMPERSANDfaPOSTROPHEeaLEFT PARENTHESISenRIGHeaASTERISK(ffLUSeaCOMMAeaHYPHEN-MINUSeaFULL STOP",
  "!ecSOLIDeaDIGIT ZEROkaONEkaTWOlaHREEkaFOURlaIVEkaSIXlaEVENkaEIGHT*kcNI<gaLONefSEMIebLESS-THAN SIG",
  "efEQUALS!ekGREATEReaQUESTION MARK(gaMMERCIAL ATeaLATIN CAPITAL LETTER AzaBzaCzaDzaEzaFzaGzaHzaIzaJ",
  "zaKzaLzaMzaNzaOzaPzaQzaRzaSzaTzaUzaVzaWzaXzaYzaZfaEFT SQUARE BRACKETeaREVERSE SOLIDUS!eqRIGH",
  "ebCIRCUMFLEX ACCENeaLOW LINE!ehGRAVE)kaSMALL LETTER AxaBxaCxaDxaExaFxaGxaHxaIxaJxaKxaLxaMxaNxaOxaP",
  "xaQxaRxaSxaTxaUxaVxaWxaXxaYxaZfaEFT CURLY BRACKETeaVERTICAL LINE!epRIGHeaTILDEaaCANCEL TAG",
  "~E0100aaVARIATION SELECTOR-17ua8ua9ta20ua1ua2ua3ua4ua5ua6ua7ua8ua9ta30ua1ua2ua3ua4ua5ua6ua7ua8ua9",
  "ta40ua1ua2ua3ua4ua5ua6ua7ua8ua9ta50ua1ua2ua3ua4ua5ua6ua7ua8ua9ta60ua1ua2ua3ua4ua5ua6ua7ua8ua9ta70",
  "ua1ua2ua3ua4ua5ua6ua7ua8ua9ta80ua1ua2ua3ua4ua5ua6ua7ua8ua9ta90ua1ua2ua3ua4ua5ua6ua7ua8ua9ta100va1",
  "va2va3va4va5va6va7va8va9ua10va1va2va3va4va5va6va7va8va9ua20va1va2va3va4va5va6va7va8va9ua30va1va2",
  "va3va4va5va6va7va8va9ua40va1va2va3va4va5va6va7va8va9ua50va1va2va3va4va5va6va7va8va9ua60va1va2va3",
  "va4va5va6va7va8va9ua70va1va2va3va4va5va6va7va8va9ua80va1va2va3va4va5va6va7va8va9ua90va1va2va3va4",
  "va5va6va7va8va9ta200va1va2va3va4va5va6va7va8va9ua10va1va2va3va4va5va6va7va8va9ua20va1va2va3va4va5",
  "va6va7va8va9ua30va1va2va3va4va5va6va7va8va9ua40va1va2va3va4va5va6va7va8va9ua50va1va2va3va4va5va6"]

end Conductor.CharName
