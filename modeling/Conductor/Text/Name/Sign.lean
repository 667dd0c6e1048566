/-! The names of punctuation, currency, arrows, mathematical and technical signs, dingbats. -/

namespace Conductor.CharName

def signs : List String := [
  "~2000aaEN QUADbfM!daSPACEbgMaiTHREE-PER-anFOURanSIXagFIGUREagPUNCTUATIONahTHIagHAIRagZERO WIDTH",
  "laNON-JOINERlgaaLEFT-TO-RIGHT MARKagRIGHT-TO-LEFaaHYPHENagNON-BREAKING .haDASHafENbfM",
  "aaHORIZONTAL BARaaDOUBLE VERTICAL LINEhfLOW,ef SINGLE QUOTATIONaxRIGHapSINGLE LOW-9hrHIGH-REVERSED",
  "%frDOUBaxRIGH%axDOUB%aæDOUBbaAGGERbfOUBLE DaaBULLETagTRIANGULAR $acONE DOT LEADalTWO",
  "aaHORIZONTAL ELLIPSISbaYPHENATION POINTaaLINE SEPARATORakPARAGRAPH<ea-TO-RIGHT EMBEDDING",
  "alRIGHT-TO-LEFadPOP DIRECTIONAL FORMATT$oaOVERRIDE$oaOVERRIDEabNARROW NO-BREAK SPAC",
  "aaPER MILLE SIGNefTEN THOUSANDbaRIMEafDOUBLE aiTRIPagREVERSEDjfDOUBLE jiTRIPaaCARET",
  "aaSINGLE LEFT-POINTING ANGLE QUOTATION MARKhäRIGHafREFERENCE!akDOUBLE EXCLAMaaINTERROBANG",
  "aaOVERLINEabUNDERTIadCHARACTER +fa INSERTION POINTaaASTERISM.acHYPHEN BULLaaFRACTION SLASH",
  "aaLEFT SQUARE BRACKET WITH QUILLaàRIGH.hjQUES:arQUESTION!aoEXCLAMATION)acTIRONIAN SIGN ",
  ">caVERSED PILCROW SIGN+ahBLACK LEFTWARDSgnRIGHaaLOW ASTERISK%jbSEMICOLOaaCLOSE UP",
  "aaTWO ASTERISKS ALIGNED VERTICALLY)afCOMMERCIAL MINUS=adSWUNG DaaINVERTED UNDERTIE;akFLOWER PUNCTU",
  ")acTHREE DOT PUNCTUATI=caADRUPLE PRIME!aqFOURbqIVEaqTWO$jaMARKaaDOTTED CROSS<agTR",
  "aaVERTICAL FOUR DOTSaaMEDIUM MATHEMATICAL SPACEaaWORD JOINER*bfUNCTION APPLIC<daISIBLE TIMES",
  "kaSEPARATORkaPLUS~2066aaLEFT-TO-RIGHT ISOLATEajRIGHT-TO-LEFaiFIRST STRONGaiPOP DIRECTIONAL",
  "&caHIBIT SYMMETRIC SWAPPINGatACTIVATE!ieARABIC FORM SHAauACTIVATE.acNATIONAL DIGIT SHAPbqOMI",
  "aaSUPERSCRIPT ZEROmaLATIN SMALL LETTER I~2074maFOURnaIVEmaSIXnaEVENmaEIGHTmaNINEmaPLUS SIGNmaMINUS",
  "!mgEQUALmaLEFT PARENTHESISmnRIGH:äaN<clBkaONEkaTWOlaHREE>clB>clB>ckB>cmB>cmB>clB>cqB>cmB>csB>cxB",
  ">cyB~2090aaLATIN SUBSCRIPT SMALL LETTER AâaEâaOâaXâaSCHWAâaHâaKâaLâaMâaNâaPâaSâaT",
  "~20A0>afEURO-CURRENCYafCOLONbfRUZEIROafFRENCH FRANCafLIRAafMILL!aiNAagPESETafRUPEE*ahWafNEW SHEQEL",
  "afDONG:efafKIPafTUGRIKafDRACHMAafGERMAN PENNY,dfOafGUARANIafAUSTRALafHRYVNIAafCEDIafLIVRE TOURNOIS",
  "afSPESMILOafTENGEagINDIAN RUPE:cfRKISH LIRAafNORDIC MARKafMANATafRUBLEafLARIafBITCOINafSOM",
  "~20D0aaCOMBINING LEFT HARPOON ABOVEkpRIGHkaLONG VERTICAL LINE OVERLAYkwSHORT$kgANTICLOCKWISE ARROW",
  "kvkmLEFTknRIGH&kiRINGkmCLOCKWISE kwANTI%kgTHREE DOTSklFOURkbENCLOSING CIRCLubSQUARuaDIAMOND",
  "$ßa BACKSLASH,krLEFT %vaCREENuaKEYCAP)ucUPWARD POINTING TRIANG;liEVERSE SOLIDUS",
  "kiDOUBLE VERTICAL STROKE;maNUITY SYMBOLkaTRIPLE UNDERDOT*kgWIDE BRIDGE%kiLEFTWARDS ARROW",
  "(krLONG DOUBLkaRIGHTWARDS HARPOON WITH BARB DOWNWARDSkçLEFoa ARROW BELOWknRIGH)kgASTERISK",
  "~2100aaACCOUNT OFbaDDRESSED TO THE SUBJECTaaDOUBLE-STRUCK CAPITAL CbaEGREE CELSIUS<bhENTRE LINE",
  "&adCAREcaDA UNAaaEULER CONSTANTaaSCRUPLE(haFAHRENHEIT!daIPT SMALL GhaCAPITAL HakBLACK-LETTER.waH",
  ")ajPLANCKpa OVER TWO PI&paI&vaI!paL+naL>ahL B BAR*waNabNUMERO SIGaaSOUND RECORDING COPYRIGHT(paP",
  "%waPwaQ$paR.vaR$waRaaPRESCRIPTION TAKEabRESPONSaaSERVICE MARK.afTELEPHONEbfRADE MARKaaVERSICLE)waZ",
  "%agOUNCbfHMaiINVERTED :vaZaaTURNED GREEK SMALL LETTER IOTA$afKELVINafANGSTROMaaSCRIPT CAPITAL B",
  "&vaCaaESTIMATED SYMBOL$haSMALL E%paEpaFakTURNED!paM&naO)ahALEFahBETahGIMEL!ajDAL",
  "aaINFORMATION SOURCEaaROTATED CAPITAL Q>afFACSIMILEaaDOUBLE-STRUCK SMALL PIuaGAMMAohCAPITAwaPI",
  "oaN-ARY SUMMATION=haSANS-SERIF CAPITAL GßaLaxREVERS!ßaY&oaITALIC CAPITAL DvdSMALàaEàaIàaJ",
  "aaPROPERTY LINE)haAMPERSANDaaPER SIGNaaAKTIESELSKAB,iaMALL FaaSYMBOL FOR SAMARITAN SOURCE",
  "aaVULGAR FRACTION ONE SEVENTHudNIudTEvaHIRDqaTWO THIRDS$ucFIF!ubFIFTHrhHREEqhFOUR+vcIX!rdIVE SIX",
  "!ucEIGH&wdEIGHqjFIVqiSEVENaaFRACTION NUMERATOR ONEaeROMAN NUMERALoaTWOpaHREEoaFOURpaIVEoaSIXpaEVEN",
  "oaEIGHT*ocNI$ocT%oeEL)ocTWEL*qaFTY;ra HUNDREDojFIV!sbTHOUSAN>arSMALL uaTWOvaHREEuaFOURvaIVEuaSIX",
  "vaEVENuaEIGHT*ucNI$ucT%ueEL)ucTWEL*waFTY>azSMALL ujFIV!ybTHOUSANabROMAN NUMERAL ONE THOUSAND C ",
  "obFIVE THOUSANojTENobREVERSED ONE HUNDREaaLATIN SMALL LETTER REVERSED C!oaSIX LATE FORM",
  "ofFIFTY EARLY(qjFTYojONE HUNDREDaaVULGAR FRACTION ZERO THIRDSaaTURNED DIGIT TWOoaHREE",
  "~2190aaLEFTWARDS ARROWalUPalRIGHTalDOWN%eg RIGHT%cg DOWNagNORTH WESTgiEAanSOUgiWE,pa WITH STROKE",
  "ayRIGH:kfWAVE arRIGH!kgTWO HEADEDawUPawRIGHTawDOWN*vaTAILawRIGH!qaFROM BARauUPauRIGHTauDOWN",
  "$ca DOWN ARROW WITH BASE)vaHOOKawRIGH!vaLOOPawRIGH>alLEFT RIGHTlaARROW WITH STROKE<kgZIGZAG",
  ".oaWITH TIP LEFTWARDSxgRIGH!aãDOWNzgRIGH*waCORNER DOWNWARDS$vkCORNER+ahANTICLOCKWISE TOP SEMICIRCL",
  "aãaaNORTH WEST ARROW TO LONG BAR<qaTO BAR OVER RIGHTWARDS ARROW TO BAR%omOPEN aà",
  "$kaHARPOON WITH BARB UPWARDSáfDOWN;ilHARPOON WITH BARBßgLEF%aåRIGHâfDOWN%açDOWNágLEF",
  ">raOVER LEFTWARDS ARROWalUPWARDS ARROW LEFTWARDS OF DOWN;qaOVER RIGHTWARDS ARROWkaPAIRED ARROWS",
  "atUPatRIGHTatDOWN<saOVER RIGHTWARDS HARPOON.taOVER LEFTWARDS HARPOON!kaDOUBLE ARROW WITH STROKE",
  "ez RIGHT!aäRIGH$waasUP$xaasDOWN(xa%cn DOWNanNORTH WESTgpEAauSOUgpWE,kiTRIPatRIGH!kiSQUIGGavRIGH",
  ";iaARROW WITH DOUBLE STROKEaãDOWN>lgASHEDasUPasRIGHTasDOWN%kaARROW TO BARatRIGH,khWHITarUParRIGHT",
  "arDOWN$ta FROM BARuaON PEDESTALäa WITH HORIZONTAL BARêgVERTIC)ofDOUBLE %orDOUBLE *wa FROM WALL",
  "aaNORTH WEST ARROW TO CORNERasSOUTH EA:cm DOWN%fa ARROW WITH SMALL CIRCLE",
  ":kgARROW LEFTWARDS OF UPWARDSaaTHREE RIGHTWARDS ARROWSaaLEFTWARDS ARROW WITH VERTICAL STROKEaæRIGH",
  "!eà RIGHT$vpDOUBLE aíRIGH!eç RIGHT$kaOPEN-HEADED ARROWayRIGH!es RIGHT>adFOR aaCOMPLEMENT",
  "aaPARTIAL DIFFERENTIAL;cbERE EXISTgaDOES NOT EXISTabEMPTY SE&afINCRaaNABLAaaELEMENT OFakNOT AN ",
  "alSMALL,caNTAINS AS MEMBERakDOES NOT CONTAIN!asSMALL (bcND OF PROaaN-ARY PRODUCTghCOgaSUMMATION",
  "abMINUS SIGff-OR-PLUS*caT PLUSbaIVISION SLASH!acSET MINaaASTERISK OPERATORajRINGajBULLET",
  "aaSQUARE ROOTagCUBafFOURTHaaPROPORTIONAL TOaaINFINITY)caGHT ANGLEafafMEASURED agSPHERICAL<eaDES",
  "baOES NOT DIVIDE*beARALLEalNOT aaLOGICAL ANDiaOR.caTERSECTIONadUN!eaGRALaiDOUBLE alTRIPajCONTOUR",
  "ajSURFACEakVOLUMakCLOCKWISkiCONTOUR aßANTIaaTHEREFOREabBECAUSaaRATIO<aePROPOR:caT MINUSabEXCES",
  "$akGEOMETRIC aaHOMOTHETICaaTILDE OPERATORaaREVERSED TILDEaaINVERTED LAZY SaaSINE WAVE",
  "aaWREATH PRODUCT%agNOTagMINUSaaASYMPTOTICALLY EQUAL TOaxNOT alAPPROXIMATEoiBUT NOT ACTUALLY ",
  "asNEITHER APPROXIMATELY NORajALMOSTapNOT !ncOR EQUAL +agTRIPLE!cjLadEQUIVALENTanGEOMETRICALLY ",
  "aaDIFFERENCE BETWEEN,faACHES THE LIMIT$rdAL;wa OR THE IMAGE OF<awIMAGE OF OR aaCOLON EQUALS",
  "*daALS COLON$ajRING INfiadCORRESPONDSaaESTIMATES;edANGULAR)ahSTAR&ajDELTA*fc TO BY DEFINITI",
  "aaMEASURED BY$ajQUESTIONEDajNOTafIDENTICamNOT adSTRICTLY EQUIVALENT%ajLESS-THAN ORarGREATER!lkVE",
  "!okVE!kjBUT NOTawGREATERaaMUCH LESS-THANffGREATERabBETWEE,aoNOT%akNOT%anNOT.alNEITHER LESS-THAN N",
  "isGREATER<qdIVALENTawGREATER%zdIVALENTixGREATER%naGREATER-THAN%qaLESS-THAN%waGREATER-THAN",
  "%zaLESS-THANaaPRECEDESabSUCCEED.alPRECEDES anSUCCEED!pdIVALENTasSUCCEEDaaDOES NOT PRECEDEjaSUCCEED",
  "$caBSET OFcgPER!ajNOT A igPER+cmBSET OFcsPERalNEITHER A SUBSET OF NmtPER%kjWITH NOTcyPERaaMULTISET",
  "ia MULTIPLICATIONjdUN:bdQUARE IMAGEhdORIGINAL,bpQUARE IMAGEhpORIGINALhaCAPibUaaCIRCLED PLUSicMIN",
  "ibTIMEiaDIVISION SLASHjaOT OPERATORijRINGijASTERISKiaEQUALS&jd+ahSQUARicMINibTIME*apSQUAR",
  "aaRIGHT TACKagLEFafDOWNafUPaaASSERTION.acMODEaaTRUE+acFORC!cbIPLE VERTICAL BAR RIGHT TURNSTIL",
  "aqDOUBLE VERTICAL BAR DOUBLEcbES NOT PROV&aeNOT !jbFORC%aïNEGATED ,aePRECEDES UNDER RELAaqSUCCEED",
  "&caRMAL SUBGROUP OFaaCONTAINS AS NORMAL SUBGROUP!sa OR EQUAL TO!àa OR EQUAL TO%adORIGINALadIMAGE",
  "aaMULTIMAPaaHERMITIAN CONJUGATE MATRIXaaINTERCALATEaaXORaaNAND+daaaRIGHT ANGLE WITH ARCgaTRIANGLE",
  "%bd-ARY LOGICAL oaORgaINTERSECTIONgdUN$acDIAMOND OPERATbjOTajSTAR$caVISION TIMESaaBOWTIE",
  "aaLEFT NORMAL FACTOR SEMIDIRECT PRODUCTaçRIGH!fs!gsbaEVERSED TILDE EQUALS;amCURLoaAND",
  ".caUBLE SUBSETjdPER>anDOUBLEhdUNaaPITCHFORKaaEQUAL AND PARALLEL TO.cbSS-THAN WITH DOaoGREATER",
  "aaVERY MUCH LESS-THANkfGREATERanLESS-THAN EQUAL TO OR%naEQUAL TO OR LESS-THANav$aymaPRECEDES",
  "mbSUCCEED;caES NOT PRECEDE OR EQUALjjSUCCEED;aeNOT SQUARE IMAGE OF OR EQUAlpORIGINAL",
  "ajSQUARE IMAGE OF OR NOThtORIGINAL:kaBUT NOT EQUIVALENT TOaàGREATERawPRECEDESaxSUCCEED",
  ")eaNORMAL SUBGROUP OF,jaCONTAIN AS NORMAL SUBGROUP!wa OR EQUAL TO!èa OR EQUALaaVERTICAL ELLIPSIS",
  "alMIDLINE HORIZONTalUP RIGHT DIAGONayDOWNaaELEMENT OF WITH LONG HORIZONTAL STROKE",
  "qsVERTICAL BAR AT END OFaýSMALL !qbDOT ABOVqaOVERBARaxSMALL !qfUNDqaTWO HORIZONTAL STROKES",
  "*aáCONTAINS)aóCONTAINSaûSMALL !oaOVERBARavSMALL aaZ NOTATION BAG MEMBERSHIPaaDIAMETER SIGN",
  "*daCTRIC ARROWaaHOUSEaaUP ARROWHEADakDOWN>acPROJECTIbgERSPabWAVY LINaaLEFT CEILINGajRIGH!faFLOOR",
  "ahRIGHaaBOTTOM RIGHT CROPhgLEF!alTOPegLEF>afREVERSED NOTaaSQUARE LOZENGEaaARCaaSEGMENTcaCTOR",
  "abTELEPHONE RECORDE!adPOSITION INDICAaaVIEWDATA SQUARE*agPLACE OF INTERES+alTURNaaWATCHaaHOURGLASS",
  ";kaORNEReiRIGH!amBOTTOMhiRIGH$eaHALF INTEGRALaoBOTTOMaaFROWNaaSMILE",
  "aaUP ARROWHEAD BETWEEN TWO HORIZONTAL BARSaaOPTION KEYaaERASE TO THE RIGHTaaX IN A RECTANGLE BOX",
  "aaKEYBOARDaaLEFT-POINTING ANGLE BRACKETayRIGH&nbLEFaaBENZENE RINGaaCYLINDRICITY.adALL AROUND-PROF",
  "aaSYMMETRY>caTAL RUNOUTaaDIMENSION ORIGINaaCONICAL TAPER>bbLOPabCOUNTERBORhaSINK",
  "aaAPL FUNCTIONAL SYMBOL I-BEAMwaSQUISH QUADwaQUAD EQUALàaDIVIDEâaAMONDàaJOTàaCIRCLEwcCIRCLE STI",
  "âaJOTwaSLASH BARwjBACK&àaSLASHàfBACKàaLESS-THANàfGREATERwaLEFTWARDS VANEwlRIGH%âaFTWARDS ARROW",
  "àmRIGH)wkCIRCLE,wdDOWN TACK UNDER<wgDELTA%àaDOWN CARETáaELTA%åaJOT+wkUP*àlUP)wfUP TACK OV)zg)àgUP",
  ")ãa)wjUP)wkDOWN)àlDOWN<wjQUOTEwjDELTAxjIAMONDwjJOTwjCIRCLE*zeSHOE(áaQUAD$âcST+àaCOLON:ãaDIAERESIS",
  "wkDELwkSTARwkJOTwkCIRCLE>ßb SHOE STILwlLEFT$wlTILDwkGREATER-THAN<xdOMMA +ßaTILDEweZ!wgSTILE",
  "%wdSEMICOLON UNDER=àaNOT EQUAL>àcQUESTI(xgOWN CARETwmUPwaIOTAwaRHOwaOMEGA*wjALPHA+wmEPSIwjIOTA",
  "wkOMEG%àaaaNOT CHECK MARKaaRIGHT ANGLE WITH DOWNWARDS ZIGZAG ARROWaaSHOULDERED OPEN BOX",
  "aaBELL SYMBOLaaVERTICAL LINE WITH MIDDLE DOT!ahINSERTIONahCONTINUOUS UNDERLINEaàDISahEMPHASIS",
  "%alCOMPOSIaaWHITE SQUARE WITH CENTRE VERTICAL LINE$bhNTERahALTERNATIVE KEYahHELM",
  "aaCIRCLED HORIZONTAL BAR WITH NOTCHiaTRIANGLE DOWN=agBROKEN CIRCLE WITH NORTHWEST%ahUNDO",
  "ahMONOSTABLE.akHYSTEREahOPEN-CIRCUIT-OUTPUT H-TYPEumLahPASSIVE-PULL-DOWN-OUTPUTnoUP",
  "aaDIRECT CURRENT SYMBOL FORM TWO>alSOFTWARE-FUNCaaAPL FUNCTIONAL SYMBOL QUAD=alDECIMAL SEPARATOR",
  "aaPREVIOUS PAGEafNEXT&aiPRINT SCREEaoCLEARaaLEFT PARENTHESIS UPPER HOOKraEXTENSION!rhLOW$ayRIGH",
  "$axRIGH!shLOW%faSQUARE BRACKET UPPER CORNERuaEXTENSION!ujLOW$aâRIGH$aßRIGH!vjLOW:flCURLY BRACKET",
  "taMIDDLE PIECE!thLOW&asCURLY%aßRIGH%aáRIGH!uhLOW%akINTEGRALakHORIZONTAL LINE",
  "adUPPER LEFT OR LOWER RIGHT CURLY BRACKET SECTgxRIGHT OR LOWER LEFaaSUMMATION TOPkaBOTTOM",
  "aaTOP SQUARE BRACKETapBOTTOMva OVER TOP SQUARE BRACKET%ahRADICAL SYMBOL>fbVERTICAL BOX LINatRIGH",
  ".laSCAN LINE-1va3va7va9aaDENTISTRY SYMBOL LIGHT VERTICAL AND TOP RIGHTégBOTTOMåaWITH CIRCLE",
  "xoDOWN AND HORIZONTxàUP$êcTRIANG$õcTRIANGxâUP)éaWAVE$õbWAVxzUP!ïaxpUP;íbLEF;ðbLEFabSQUARE FOO",
  "aaRETURN SYMBOLahEJECTaaVERTICAL LINE EXTENSION+acMETRICAL BREjaLONG OVER SHORTjaSHORT OVER LONG",
  "!taTWO SHORTS!jkTWO SHORTSuaJOINEDkaRISEMEkeETRAjfPENTaaEARTH GROUNDaaFUSEaaTOP PARENTHESIS",
  "amBOTTOM!eaCURLY BRACKETaoBOTTOM!eiTORTOISE SHELLaxBOTTOMaaWHITE TRAPEZIUM",
  "aaBENZENE RING WITH CIRCLEaaSTRAIGHTNESSafFLAaaAC CURRENTaaELECTRICAL INTERSECTION",
  "aaDECIMAL EXPONENT SYMBOL(bcLACK RIGHT-POINTING DOUBLE TRIANGgßLEFgzUPgzDOWN%éa WITH VERTICAL BAR",
  "gñLEF!vnTRIANGLE WITH DOUBLEaaALARM CLOCK;caOPWATCH!agTIMERaaHOURGLASS WITH FLOWING SAND",
  "*gjMEDIUM LEFT-POINTINGntRIGHnsUPnsDOWN+at!gaSQUARE FOR STOPgaCIRCLE FOR RECORDaaPOWER SYMBOL",
  "ggON-OFF ihghSLEEPahOBSERVER EYEabSYMBOL FOR NULlaSTART OF HEADINGuaTEXTliENDtaRANSMISSIONnaQUIRY",
  "laACKNOWLEDGE)lcBEmaACKSPACE&ldHORIZONTAL TABULATlaLINE FEED!lnVERTIC!lfFORMlaCARRIAGE RETURN",
  ":mbHIFT OUraINlaDATA LINK ESCAPEmbEVICE CONTROL ONßaTWOàaHREEßaFOUR=llNEGATIVE lbSYNCHRONOUS IDL",
  "laEND OF TRANSMISSION BLOCK.naNCEL!saMEDIUM%mbUBSTITUT.lglaFILE SEPARATORlkGROUPlkRECORDlkUNIT",
  "(mbPAC<nbLETaaBLANK SYMBOLaaOPEN BOX=nbWLIN%ra FORM TWOllSUBSTITU~2440aaOCR HOOKeaCHAIReaFORK",
  "eeINVERTED eaBELT BUCKLEfbOW TIfaRANCH BANK IDENTIFICATIONeaAMOUNT OF CHECKeaDASH",
  "*fbUSTOMER ACCOUNT NUMBE!fdOUBLE BACKSL~2460<acCIRCLED DIGIT OoaTWOpaHREEoaFOURpaIVEoaSIXpaEVEN",
  "oaEIGHT*ocNI$icNUMBER TpcELEVpaTWELVE$qcHIRTEpfFOUqeIFpeSIXqeEVENpeEIGHpeNINE*saNTY",
  ":acPARENTHESIZED DIGIT OuaTWOvaHREEuaFOURvaIVEuaSIXvaEVENuaEIGHT*ucNI$ocNUMBER TvcELEVvaTWELVE",
  "$wcHIRTEvfFOUweIFveSIXweEVENveEIGHveNINE*yaNTYaaDIGIT ONE FULL STOPgkTWOhkHREEgkFOURhkIVEgkSIX",
  "hkEVENgkEIGHT*gmNI$amNUMBER ThmELEVhkTWELVE$imHIRTEhpFOUioIFhoSIXioEVENhoEIGHhoNINE*kkNTY",
  "aaPARENTHESIZED LATIN SMALL LETTER AæaBæaCæaDæaEæaFæaGæaHæaIæaJæaKæaLæaMæaNæaOæaPæaQæaRæaSæaTæaU",
  "æaVæaWæaXæaYæaZaaCIRCLED LATIN CAPITAL LETTER AâaBâaCâaDâaEâaFâaGâaHâaIâaJâaKâaLâaMâaNâaOâaPâaQâaR",
  "âaSâaTâaUâaVâaWâaXâaYâaZoaSMALL LETTER AàaBàaCàaDàaEàaFàaGàaHàaIàaJàaKàaLàaMàaNàaOàaPàaQàaRàaSàaT",
  "àaUàaVàaWàaXàaYàaZiaDIGIT ZEROaaNEGATIVE CIRCLED NUMBER ELEVENyaTWELVEzaHIRTEENyfFOUzeIFyeSIX",
  "zeEVENyeEIGHyeNINE*àaNTYaaDOUBLE CIRCLED DIGIT ONEvaTWOwaHREEvaFOURwaIVEvaSIXwaEVENvaEIGHT*vcNI",
  "$pcNUMBER T.raDIGIT ZEROaaBOX DRAWINGS LIGHT HORIZONTALnlHEAVY!tcVERTICnjHEAVY%tkTRIPLE DASH ",
  "nxHEAVY!äcVERTICnvHEAVY%ttQUADRUnßHEAVY%trQUADRUnyHEAVY!taDOWN AND RIGHT",
  "naDOWN LIGHT AND RIGHT HEAVYsaHEAVY AND RIGHT LIGHT$npHEAVY%ábLEF%áhLEF%áhLEF%ábLEF*tkUP*nwUP*nwUP",
  "*tkUP*tjUP*nvUP*nvUP*tjUP*tkVERTICAL*nwVERTICAL*åfDOWN ;ágRIGHT UP,nwVERTICAL>ágRIGHT UP;åfDOWN ",
  ")ntHEAVY*åbLEF*åhLEF*ßmLEF*ákLEF*åhLEF*ákLEF*ßmLEF*åbLEF*taDOWN AND HORIZONTAL=nàLEFT*nßRIGHT",
  "(ágHORIZONTAL+ágHORIZONTAL)nßRIGHT>nàLEFT)nuHEAVY*tpUP*çgUP*çgUP*nàUP*nàUP*çgUP*çgUP*tpUP",
  "*tpVERTICAL*çgVERTICAL*çgVERTICAL*nàVERTICAL*ßqDOWN nrDOWN HEAVY AND UP,nàVERTICAL",
  "(sgUP HEAVY AND RIGHT DOWNnmRIGHT UP HEAVY AND LEF>syDOWN >txDOWN *nrDOWN LIGHT AND UP",
  "nrUP LIGHT AND DOWN>çgVERTICAL>çgVERTICAL=nyHEAVY>tlDOUBLE DASHnxHEAVY!äcVERTICnvHEAVY$nlDOUBLE",
  "ucVERTIC.saSINGLE AND RIGHT DOUBLEscDOUBLE AND RIGHT SING$uaDOWN AND RIGHT$âiLEF$âiLEF$âbLEF(nyUP",
  "(nyUP(ukUP(nxUP(nxUP(ujUP(nyVERTICAL(nyVERTICAL(ukVERTICAL$æiLEF$æiLEF$æbLEF=âhHORIZONTAL",
  "=âhHORIZONTAL=âaHORIZONTAL$nâUP$nâUP$upUP$nâVERTICAL$nâVERTICAL$upVERTICAL;nkLIGHT ARC DOWNåbLEF",
  "xjUP$xkUP!tfDIAGONAL UPPER RIGHT TO LOWERçbLEFT TO LOWER RIGHáaCROSS$tetaUP%tftaDOWN%nfHEAVYtaUP",
  "taRIGHTtaDOWN,tgLEFT AND HEAVY!nkLIGHT UP AND %tfLEFT AND LIGHT %teUP AND LIGHT aaUPPER HALF BLOCK",
  "agLOWER ONE EIGHTHkgQUARTERggTHREE EIGHTHSggHALF!gpFIV$mhQUARTER!goSEVENagFULL!buEFT%bvEFT(btEFT",
  "fgHALF,buEFT:bsEFT<brEFT%amRIGHaaLIGHT SHADEagMEDIUMagDARK&arUPPERarRIGHTaaQUADRANT LOWER LEFT",
  "pbRIGH!jhUPPta AND LOWER LEFT AND LOWER RIGHTãfybUPPER RIGHT AND LOWER LEFóbRIGHpf$pu(påRIGH",
  "aaBLACK SQUAREahWHITEma WITH ROUNDED CORNERSnaCONTAINING BLACK SMALL SQUARE",
  "aaSQUARE WITH HORIZONTAL FILLmhVERTICmfORTHOGONAL CROSSHATCHmfUPPER LEFT TO LOWER RIGHT",
  "sgRIGHT TO LOWER LEF$mvDIA)as*hl!gbRECTANGLakWHITE!gjVERTICAL atWHITE!gaPARALLELOGRAMaoWHITE",
  "%gfUP-POINTING TRIavWHITE!siSMALL aàWHITE%gsRIGHTayWHITE%gyRIGHTaãWHITE!vaPOINTERaxWHITE(gsDOWN",
  "axWHITE(gyDOWN(gyDOWN,gtLEF,gtLEF,gzLEF,gzLEF,gsLEF,gsLEF*haIAMONDaiWHITE",
  "na CONTAINING BLACK SMALL DIAMONDaaFISHEYEabLOZENG*gcCIRCahDOTTEDaaCIRCLE WITH VERTICAL FILL",
  "&adBULLS;gcCIRC$maLEFT HALF BLACKmmRIGHmlLOWERmnUPPsgRIGHT QUADRANTmqALL BUT UPPER LEF",
  ")amLEFT HALF atRIGHaaINVERSE BULLET<amINVERSE auUPPER HALF aáLOW!gaLEFT QUADRANT CIRCULAR ARC",
  "gxRIGHaãLOWgxLEF(lg(lgacBLACK LOWER RIGHT TRIANGmkLEFgqUPPmkRIGH<aiWHIT",
  "aaSQUARE WITH LEFT HALF BLACKmmRIGHmlUPPER LEFT DIAGONALmvLOWER RIGH",
  "&gaSQUARE WITH VERTICAL BISECTING LINEgaUP-POINTING TRIANGLE WITH DOT(awUP-POINTING TRIANGLßmRIGH",
  "<bhARGE&saUPPER LEFT QUADRANTsqLOWykRIGHsrUPP%gßCIRCLsqLOWykRIGHsrUPP+acUPPER LEFT TRIANGgkRIGH",
  "!aqLOW>gbMEDIUM SQUARaoBLACK!ofMALL SauBLACK(arLOW!gaSUN WITH RAYSaaCLOUDaaUMBRELLAaaSNOWMAN",
  "aaCOMET&haTARafWHITEaaLIGHTNINGaaTHUNDERSTORM(bbUaaASCENDING NODEanDE*caNJUNCTIONaeOPPOSI",
  ">gbTELEPHONakWHITEaaBALLOT BOXka WITH CHECKqaXaaSALTIREaaUMBRELLA WITH RAIN DROPSaaHOT BEVERAGE",
  ")gbSHOGI PIECamBLACK)acSHAMROaaREVERSED ROTATED FLORAL HEART BULLET$gaLEFT POINTING INDEXgqRIGH",
  "!auWHITEgpUPgpRIGHTgpDOWNaaSKULL AND CROSSBONESaaCAUTION SIGNafRADIOACTIVEafBIOHAZARD$caDUCEUS",
  "aaANKHaaORTHODOX CROSSaaCHI RHObaROSS OF LORRAINEjaJERUSALEMaaSTAR AND CRESCENTaaFARSI SYMBOL",
  "aaADI SHAKTIaaHAMMER AND SICKLE$ahPEACEaaYIN YANGaaTRIGRAM FOR HEAVENmaLAKEmbFIRmaTHUNDERmaWIND",
  "naATERmaMOUNTAINmaEARTHaaWHEEL OF DHARMAcaITE FROWNING FACEgiSMILanBLACK!haUN WITH RAYS",
  "aaFIRST QUARTER MOONapLAaaMERCURY$bbEMALE SIG,af!aj<adJUPIaaSATURNaaURANUSaaNEPTUNEaaPLUTOaaARIES",
  "abTAURUaaGEMINI*acCANCaaLEOabVIRGaaLIBRA(acSCORPIbdAGITTAR(caPRICORN!afAQUabPISCE",
  "aaWHITE CHESS KINGmaQUEENmaROOKmaBISHOPmaKNIGHTmaPAWN(alBLACKmaQUEENmaROOKmaBISHOPmaKNIGHTmaPAWN",
  "gaSPADE SUIT+gbHEART SUIgfDIAMOND$gfCLUB!gfSPADE!gfHEART%anBLACK$gfCLUBaaHOT SPRINGSaaQUARTER NOTE",
  "afEIGHTHaaBEAMED EIGHTH NOTEShiSIXTEENaaMUSIC FLAT SIGNgfNATURALgfSHARPaaWEST SYRIAC CROSSapEA",
  "aaUNIVERSAL RECYCLING SYMBOLaaRECYCLING SYMBOL FOR TYPE-1 PLASTICSßj2ßj3ßj4ßj5ßj6ßj7",
  "vbGENERIC MATERIAL+aßBLACK ahRECYCLED PAPERavPARTIALLY-=afPERMANENT PAPER!aiWHEELCHAIaaDIE FACE-1",
  "ja2ja3ja4ja5ja6)caITE CIRCLE WITH DOT RIGHTsaTWO DOTS!akBLACK CIRCLE WITH WHITEsaTWO WHITE DOTS",
  "aaMONOGRAM FOR YANGoaIN!agDIGRAM FOR GREATElaLESSER YINtaANG$uaIN+gaFLAGafBLACKaaHAMMER AND PICK",
  "aaANCHORaaCROSSED SWORDSabSTAFF OF AESCULAPIUbbCALEaaALEMBICaaFLOWERabGEA&jbHERMEaaATOM SYMBOL",
  "%caEUR-DE-LIS%acOUTLINED WHITE STaaTHREE LINES CONVERGING RIGHTxbLEFaaWARNING SIGNafHIGH VOLTAGE",
  "agDOUBLED FEMALijalINTERLOCKED FEMALE AN$anMALE ANfgWITH STROKreAND MALE AND FEMALE !avVERTICAL ",
  "ayHORIZONTaaMEDIUM WHITE CIRCLEhhBLACK!hmSMALL baARRIAGE SYMBOLaiDIVORCahUNMARRIED PARTNERSHIP",
  "aaCOFFINabFUNERAL URaaNEUTERaaCERESabPALLAaaJUNO<caSTA)bbHIROaaBLACK MOON LILITH;acSEXTIcfMISE",
  "aaQUINCUNX!cbSQUIQUADRATbaOCCER BALLaeBASEaaSQUARED KEYaaWHITE DRAUGHTS MANpaKING!anBLACKpaKING",
  "aaSNOWMAN WITHOUT SNOWbaUN BEHIND CLOUDaaRAIN&gdSNOW!aeTHUNDER CLOUD AND baURNED WHITE SHOGI PIECE",
  "hmBLACK,haIAMOND IN SQUAREaaCROSSING LANESaaDISABLED CARaaOPHIUCHUSaaPICK;adCAR SLID",
  "aaHELMET WITH WHITE CROSS(bnIRCLED CbbHAINaaNO ENTRYaaALTERNATE ONE-WAY LEFT WAY TRAFFIC",
  "avBLACK TWOazWHITE!gaLEFT LANE MERGEaqWHITEaaDRIVE SLOW SIGN,caAVY WHITE DOWN-POINTING TRIANGLE",
  "*agLEFT CLOSEDaaSQUARED SALTIREacFALLING DIAGONAL IN WHITE CIRCLE IN BLACK SQUA+haRUCK",
  "aaRESTRICTED LEFT ENTRY-1wa2aaASTRONOMICAL SYMBOL FOR URANUS",
  "*gbCIRCLE WITH STROKE AND TWO DOTS ABOVaaPENTAGRAMajRIGHT-HANDED INTERLACED aâLEFamINVERT",
  "+gaCROSS ON SHIELD:bbHINTO SHRINaaCHURCHbaASTLEabHISTORIC SITaaGEAR WITHOUT HUBja HANDLES",
  "aaMAP SYMBOL FOR LIGHTHOUSEbaOUNTAINaaUMBRELLA ON GROUND!ahFbaLAG IN HOLEbaERRYaaSAILBOAT",
  "baQUARE FOUR CORNERSbaKIER:acICE SKAaaPERSON WITH BALLaaTENTaaJAPANESE BANK SYMBOL",
  "ahHEADSTONE GRAVEYARDaaFUEL PUMPaaCUP ON BLACK SQUARE",
  "abWHITE FLAG WITH HORIZONTAL MIDDLE BLACK STRIP,acBLACK SAFETY SCISSOajUPPER BLADE!hh!arLOWakWHIT",
  "gaHEAVY CHECK MARK:caLEPHONE LOCATION SIGNbaAPE DRIVEabAIRPLANabENVELOPaaRAISED FISThaHAND",
  "afVICTORYafWRITING.gaRIGHT PENCILag!apUPP:gaNIB>gaNIB<ak=aqaaMULTIPLICATION XaqHEAVY acBALLOT",
  "aiHEAVY aaOUTLINED GREEK CROSSamHEAVYagOPEN CENTREarHEAVY agLATINalSHADOWED WHITE (jgLATIN",
  "agMALTESEaaSTAR OF DAVIDaaFOUR TEARDROP-SPOKED ASTERISKfqBALLOONaáHEAVY !fqCLUB",
  "aaBLACK FOUR POINTED STARasWHITE,bbPARKLE!afSTRESS OUTLINED WHITEanCIRCL>maBLACK STAR",
  "!alBLACK CENTRE!blUTLINEDatHEAVY afPINWHEEL)bnHADOW;gi)maASTERISK<apEIGHT (anEIGHT POINTofPINWHEEL",
  "!atSIX$okRECTILINEAR aéHEAVY $atTWELVE)alSIXTEEN POINT*apTEARDROP-ayOPEN CENTRE azHEAVY",
  "*faETALLED BLACK AND WHITE FLORETTEajBLACK!ao!aoEIGHT PETALLED OUTLINED ",
  "+afCIRCLED OPEN CENTRE EIGHT POINTED(wiPINWHEEL (bbNOWFLAKajTIGHT TRIFOLIATE akHEAVY CHEVRON",
  "abSPARKLahHEAVY :aqBALLOONajEIGHT TEARDROP-SPOKED PROPELLERaíHEAVY abCROSS MAR",
  "(bcHADOWED WHITE CIRC!akNEGATIVE SQUARED aaLOWER RIGHT DROP-SHADOWED WHITE SQUAREaèUPP!mv!mv",
  "aaBLACK QUESTION MARK ORNAMENTaxWHITEgsEXCLAMA$gaDIAMOND MINUS WHITE X:haXCLAMATION MARK SYMBOL",
  "aaLIGHT VERTICAL BARanMEDIUManHEAVY(atHEAVY SINGLE TURNED COMMA QUOTnâ!gìDOUBnâ$géLOW kåDOUB",
  "ajCURVED STEM PARAGRAPH SIGN!gtEXCLAMgzHEART gbBLACK HEARabROTATED HEAVY BLACK HEART BULLE",
  "!agFLORAL!inFLORAL&ajMEDIUM LEFT PARENTHESIShwRIGH!hzFLATTENED rwRIGH%lj-POINTING ANGLE BRACKET",
  "hæRIGH<hyEFT-POINTING ANGLEgíRIGH%aêHEAVYgæRIGHarLIGHT LEFT TORTOISE SHELLgæRIGH*lr CURLYhyRIGH",
  "aaDINGBAT NEGATIVE CIRCLED DIGIT ONEäaTWOåaHREEäaFOURåaIVEäaSIXåaEVENäaEIGHT*äcNI$zcNUMBER T",
  ",ikCIRCLED SANS-SERIFæaTWOçaHREEæaFOURçaIVEæaSIXçaEVENæaEIGHT*æcNI$àcNUMBER T,iáNEGATIVE ïaTWO",
  "ðaHREEïaFOURðaIVEïaSIXðaEVENïaEIGHT*ïcNI$écNUMBER TaaHEAVY WIDE-HEADED RIGHTWARDS ARROWgaPLUS SIGN",
  "ghMINgfDIVISION%ggSOUTH EAST&gq!gnNOR!arDRAFTING POINT*gtROUND-TIPP+azTRIANGLaåHEAVY aæDASHED",
  "aìHEAVY arBLACKaaTHREE-D TOP-LIGHTED RIGHTWARDS ARROWHEADiâBOTTOMavBLACK",
  "&gsBLACK CURVED DOWNWARDS ANtßUP(awSQUAT axHEAVY CONCAVE-POINTEDarRIGHT-SHADED WHITEaäLEF",
  "azBACK-TILTED SHADOWaìFRONTaäHEAVY LOWER RIGHT-gíUPP!añNOTCHEDaaCURLY LOOP!iíUPPaxCIRCLED HEAVY",
  "arWHITE-FEATHEREDagBLACK-FEATHERED SOUTH EAST!aàBLACK!qnNOR$aåHEAVY $aåHEAVY !wnNOR",
  "!atTEARDROP-BARB$gtTEARDROP-SHANKatWEDGE-TAILaâHEAVY atOPEN-OUTLIN=akDOUBLE ",
  "aaTHREE DIMENSIONAL ANGLEafWHITE TRIANGLE CONTAINING SMALL WHITE TRIaaPERPENDICULAR&ea SUBSEThdPER",
  "aaLEFT S-SHAPED BAG DELIMITERayRIGHaaOR WITH DOT INSIDE&ahREVERSE SOLIDUS PRECEDING",
  "aaSUPERSET PRECEDING SOLIDUSaaVERTICAL BAR WITH HORIZONTAL STROKEaaMATHEMATICAL RISING DIAGONAL",
  "aaLONG DIVISION!nmFALLaaSQUARED LOGICAL ANDqaOR=gaDIAMOND WITH CENTRED DOTaeAND WITH",
  "aaELEMENT OF OPENING UPWARDS!ajLOWER RIGHT CORNERarUPPER LEF>faOUTER JOINamRIGHalFULL",
  "aaLARGE UP TACKgfDOWN&faAND RIGHT DOUBLE TURNSTILEpaTACKfaMULTIMAP!blONGfgLEF",
  ".ca TACK WITH CIRCLE ABOVE(bcOZENGE DIVIDED BY HORIZONTAL RUaaWHITE CONCAVE-SIDED DIAMOND",
  "àa WITH LEFTWARDS TICKælRIGH!guSQUAREslRIGHaaMATHEMATICAL LEFT WHITE SQUARE BRACKETnwRIGH!sjANGL",
  "npRIGH!snDOUBLE nwRIGH(yiTORTOISE SHELLnãRIGH!saFLATTENED PARENTHESISnxRIGH",
  "aaUPWARDS QUADRUPLE ARROWavDOWNaiANTICLOCKWISE GAPPED CIRCaâaaRIGHT ARROW WITH CIRCLED PLUS",
  "!agLONG LEFTWARDSfmRIGH!jg RIGHT$pfDOUBLE ftRIGH!jn RIGHT(ua FROM BARfvRIGH!poDOUBLE fáRIGH",
  "(qiSQUIGGaaBRAILLE PATTERN BLANKqaDOTS-1va2vb1va3vb1vb2vc1va4vb1vb2vc1vb3vc1vc2vd1va5vb1vb2vc1vb3",
  "vc1vc2vd1vb4vc1vc2vd1vc3vd1vd2ve1va6vb1vb2vc1vb3vc1vc2vd1vb4vc1vc2vd1vc3vd1vd2ve1vb5vc1vc2vd1vc3",
  "vd1vd2ve1vc4vd1vd2ve1vd3ve1ve2vf1va7vb1vb2vc1vb3vc1vc2vd1vb4vc1vc2vd1vc3vd1vd2ve1vb5vc1vc2vd1vc3",
  "vd1vd2ve1vc4vd1vd2ve1vd3ve1ve2vf1vb6vc1vc2vd1vc3vd1vd2ve1vc4vd1vd2ve1vd3ve1ve2vf1vc5vd1vd2ve1vd3",
  "ve1ve2vf1vd4ve1ve2vf1ve3vf1vf2vg1va8vb1vb2vc1vb3vc1vc2vd1vb4vc1vc2vd1vc3vd1vd2ve1vb5vc1vc2vd1vc3",
  "vd1vd2ve1vc4vd1vd2ve1vd3ve1ve2vf1vb6vc1vc2vd1vc3vd1vd2ve1vc4vd1vd2ve1vd3ve1ve2vf1vc5vd1vd2ve1vd3",
  "ve1ve2vf1vd4ve1ve2vf1ve3vf1vf2vg1vb7vc1vc2vd1vc3vd1vd2ve1vc4vd1vd2ve1vd3ve1ve2vf1vc5vd1vd2ve1vd3",
  "ve1ve2vf1vd4ve1ve2vf1ve3vf1vf2vg1vc6vd1vd2ve1vd3ve1ve2vf1vd4ve1ve2vf1ve3vf1vf2vg1vd5ve1ve2vf1ve3",
  "vf1vf2vg1ve4vf1vf2vg1vf3vg1vg2vh1aaRIGHTWARDS TWO-HEADED ARROW WITH VERTICAL STROKEæpDOUBLE ",
  "!aàLEFTWARDS DOUBLEaíRIGH!eç RIGHT%áaFROM BAR%xaFROM BARaáRIGH%ajDOWNWARDS ARROW WITH HORIZONTaçUP",
  "iaTRIPLE ARROWasDOWN(raDASH ARROWayRIGH!knTRIPayRIGHmqWO-HEADED TlaARROW WITH DOTTED STEM+oaTO BAR",
  "asDOWN$waTAIL WITH VERTICAL STROKEåpDOUBLE (waARROW WITH TAIL$léTWO-HEADED ðpDOUBLE .kaARROW-TAIL",
  "arRIGH!kkDOUBLE ayRIGH%pa TO BLACK DIAMONDaâRIGH!qqFROM BAR aëRIGH",
  "aaNORTH WEST AND SOUTH EAST ARROWgiEAST AND SOUTH WE!maRROW WITH HOOKgsEAaxSOUgsWE(mnRROW AND NOR",
  ")gvEAST ARROW)avSOUTH EAST ARROWgnWEST ARROW AND NOR=cbSING DIAGONAL CROSSING FALLING DIAGONA",
  "amFALLING DIAGONAL CROSSING RIS%riCROSSING NORTH EA(rrCROSSING!aßFALLING DIAGONAL",
  "!aßRISING DIAGONAL$ßiNORTH WE.rrCROSSINGaaWAVE ARROW POINTING DIRECTLY RIGHT",
  "aaARROW POINTING RIGHTWARDS THEN CURVING UPWARDSìfDOWNpfDOWNWARDS THEN CURVING LEFTëgRIGH",
  "*cgGHT-SIDE ARC CLOCKWISEapLEFT-SIDE ARC ANTIayTOPayBOTTOM!iaCLOCKWISE ARROW WITH MINUS",
  "$àa WITH PLUS&bpOWER RIGHT SEMICIRCULAR gpLEFT SEMICIRCULAR ANTIahANTICLOCKWISE CLOSED CIRCLaâ",
  ",fgWARDS ARROW ABOVE SHORT LEFTWARDSamLEFTWARDS ARROW ABOVE SHORT RIGH",
  "!aqSHORT RIGHTWARDS ARROW ABOVE$rcWITH PLUS BELaáLEF!raTHROUGH X",
  "!ea RIGHT ARROW THROUGH SMALL CIRCLEanUPWARDS TWO-HEADED ARROW FROM",
  "!faBARB UP RIGHT BARB DOWN HARPOONkiDOWN RIGHT BARB UPaiUP BARB RIGHT DOWN BARB LEFT",
  "ijLEFT DOWN BARB RIGH$kwUP!izRIGH(kyDOWN%xjLEF:kaHARPOON WITH BARB UP TO BARaçRIGH",
  "ahUPWARDS HARPOON WITH BARB RIGHTaéDOWN%áhDOWNaéRIGH%ßiLEFaèDOWN*äeFROMaéRIGH*åeFROMaëDOWN%ájDOWN",
  "aëRIGH%ßkLEFaêDOWN*äaABOVE LEFTWARDS HARPOON WITH BARB DOWN",
  "$äaBESIDE UPWARDS HARPOON WITH BARB RIGHT+åaABOVE RIGHTWARDS HARPOON WITH BARB DOWN",
  "%æaBESIDE DOWNWARDS HARPOON WITH BARB RIGHT%êaRIGHTWARDS HARPOON WITH BARB UP&áâDOWN ABOVE RIGH",
  "%ëaLEFTWARDS HARPOON WITH BARB UP&ââDOWN ABOVE LEF*ëaONG DASHákDOWN BELOW!aðRIGH!aòRIGH.ëâDOWN",
  ",íâUP$fa DOUBLE ARROW WITH ROUNDED HEADaaEQUALS SIGN ABOVE RIGHTWARDS ARROWaxTILDE OPERATOR",
  "*kaARROW ABOVE TILDE OPERATORaæRIGHxaALMOST EQUAL TO%amLESS-THAN ABOVE LEF%qaTHROUGH LESS-THAN",
  ")ayGREATER-THAaxSUBSET$yaSUBSET&awSUPERSET!ea FISH TAILalRIGHakUPakDOWN",
  "aaTRIPLE VERTICAL BAR DELIMITERaaZ NOTATION SPOTlaTYPE COLON+ec WHITE CURLY BRACKavRIGH",
  "!laPARENTHESISatRIGH(lbLEFT IMAGE BRACKElpRIGH!qiBINDINGlrRIGH(faSQUARE BRACKET WITH UNDERBAR",
  "aãRIGH!zbTICK IN TOP CORNE!ßbTICK IN BOTTOM CORNEaðLEF!çhTOP<fbANGLE BRACKET WITH DOayRIGH",
  ">fiARC LESS-THANanRIGHT ARC GREATERaßDOUBLE LEF$axDOUBLE RIGH%fiBLACK TORTOISE SHELLaãRIGH",
  "$caTTED FENCEabVERTICAL ZIGZAG LINaaMEASURED ANGLE OPENING LEFT,maVARIANT WITH SQUARE",
  "!jbRIGHT ANGLE WITH DOaaANGLE WITH S INSIDEbbCUTE ANGL&atSPHERICALyaUP$agTURNEDaiREVERS(laUNDERBAR",
  "atREVERSED &arOBLIQUEwaDOWN;pbWITH OPEN ARM ENDING IN ARROW POINTING UP AND RIGHÿbND LEF!ûkDOWN",
  "!ûjDOWNûaRIGHT AND UPûiLEF!ÿaT AND DOWNûkLEF.jaEMPTY SET:afEMPTY SET WITH OVpaSMALL CIRCLE ABOVE",
  "pgRIGHT ARROWpnLEF%adCIRCLE WITH HORIZONTAL ggD VERTICiaPARALLELiaREVERSE SOLIDUS$icPERPENDICUL",
  "%gn DIVIDED BY HORIZONTAL BAR AND TOP HALF DIVIDED BY(maSUPERIMPOSED X",
  "$iaANTICLOCKWISE-ROTATED DIVISION SIGNaaUP ARROW THROUGH CIRCLE!iaWHITE BULLETigiaLESS-THAN",
  "ifGREATER)naMALL CIRCLE TO THE RIGHTmnTWO HORIZONTAL STROKESaaSQUARED RISING DIAGONAL SLASHisFALL",
  "iaASTERISKiaSMALL CIRCLEjbQUARaaTWO JOINED SQUARESbaRIANGLE WITH DOT ABOVEoaUNDERBAR&bc IN TRIANG",
  "!oaSERIFS AT BOTTOM!ajRIGHT TRIANGLE ABOVE LEFT%adLEFT TRIANGLE BESIDE VERTICAL ",
  "!akVERTICAL BAR BESIDE RIGHaaBOWTIE WITH LEFT HALF BLACKmmRIGHbaLACK BOWTIE$avTIMESlmRIGH",
  "aaWHITE HOURGLASSakBLACK+faWIGGLY FENCEaoRIGH!fmDOUBLE avRIGHaaINCOMPLETE INFINITYajTIE OVER",
  "=anINFINITY NEGATED WITHaaDOUBLE-ENDED MULTIMAPaaSQUARE WITH CONTOURED OUTLINE&daREASES AS",
  "aaSHUFFLE PRODUCTaaEQUALS SIGN AND SLANTED PARALLELåa WITH TILDE ABOVE!avIDENTICAL TO",
  "aaGLEICH STARKaaTHERMODYNAMIC+caWN-POINTING TRIANGLE WITH LEFT HALF BLACKámRIGH",
  "aaBLACK DIAMOND WITH DOWN ARROWgaLOZENGE!aqWHITE CIRCLEaxBLACK,bbRROR-BARRED WHITE SQUARnhBLACK",
  "!taDIAMONDniBLACK%tbCIRCLnhBLACKaaRULE-DELAYEDbaEVERSE SOLIDUS OPERATORabSOLIDUS WITH OVERBA",
  "!qaWITH HORIZONTAL STROKEaaBIG SOLIDUSehREVERSE acDOUBLE PLahTRIP",
  "aaLEFT-POINTING CURVED ANGLE BRACKETaäRIGHaaTINYadM.ajN-ARY CIRCLED DOTojPLUSokTIME",
  "gaUNION OPERATOR WITH DOTßaPLUS$gjSQUARE INTERSECTIONnmUNajTWO LOGICAL ANDmjOR)goaaMODULO TWO SUM",
  "aaSUMMATION WITH INTEGRAL$ajQUADRUPLE INTEGRAL!ajFINITE PARTaaINTEGRAL WITH DOUBLE STROKE",
  "jaAVERAGE WITH SLASHaaCIRCULATION FUNCTIONaeANTICLOCKWISE INTEGRA",
  "aaLINE INTEGRATION WITH RECTANGULAR PATH AROUND POLEwvSEMICIRCrfNOT INCLUDING THE",
  "(kaROUND A POINT OPERATOR,dsTERNION+oaLEFTWARDS ARROW WITH HOOKoaTIMES SIGNobINTERSECTIOodUN",
  "oaOVERBARofUNDaaJOIN*ajLARGE LEFT TRIANGLE(aeZ NOTATION SCHEMA COMPOSIsaPIPING!sePROJEC",
  "aaPLUS SIGN WITH SMALL CIRCLE ABOVEpgCIRCUMFLEX ACCENTpgTILDEpaDOT BELOWpgTILDEpaSUBSCRIPT TWO",
  "paBLACK TRIANGLE&agMINUS SIGN WITH COMMA&awMINqaFALLING DOTSqiRIS&kcIN LEFT HALF CIRCnnRIGH",
  "aaVECTOR OR CROSS PRODUCT)bgULTIPLICATION SIGN WITH DOTzaUNDERBAR",
  "aaSEMIDIRECT PRODUCT WITH BOTTOM CLOSED%aiSMASH)azMULTIPLICATIONxnRIGH",
  "aaCIRCLED MULTIPLICATION SIGN WITH CIRCUMFLEX ACCENT!xhDOUBLE!iaDIVISION SIGN.ncTRIANGatMIN",
  "%xcTRIANG+aiINTERIORaqRIGHTHAND aaZ NOTATION RELATIONAL COMPOSITION!ahAMALGAMATION OR CO",
  "%fbSECTION WITH DO+afUNION WITH MINUSlaOVERBAR$saOVERBARsaLOGICAL AND$lbLOGICAL O",
  "gaABOVE INTERSECTION$naABOVE UNION!mmBAR ABOVE !tfBAR ABOVE !gdBESIDE AND JOINED WITH UN",
  "!ndBESIDE AND JOINED WITH INTERSECTaaCLOSED UNION WITH SERIFShpINTERSECT(aoDOUBLE SQUARodUN",
  "%ya AND SMASH PRODUCTaaLOGICAL AND WITH DOT ABOVEipOR=amDOUBLEpaOR!amTWO INTERSECTINGzaOR",
  "adSLOPING LARGEoaAND%apLOGICAL OR OVERLAPP+raMIDDLE STEMirOR!raHORIZONTAL DASHivOR;taUBLE OVERBAR",
  "rfUND!yfUND!aoSMALL VEE%iuORxfUNDaaZ NOTATION DOMAIN ANTIRESTRICTIONlqRANGE",
  "aaEQUALS SIGN WITH DOT BELOWaaIDENTICAL WITH DOT ABOVE",
  "abTRIPLE HORIZONTAL BAR WITH DOUBLE VERTICAL STROKàsTRIP$apTILDE OPERATORuaRISING DOTS",
  ".bcIMILAR MINUS SIMIL$apCONGRUENT*haWITH ASTERISKaaALMOST EQUAL TO WITH CIRCUMFLEX ACCENT",
  "baPPROXIMATELY EQUAL OR EQUAL TO.maABOVE PLUS SIGNagPLUS SIGN ABOVE EQUAL!saTILDE OPERATOR",
  "aaDOUBLE COLON EQUAL,bbWO CONSECUTIVE EQUALS SIGNbzHREE%maWITH TWO DOTS ABOVE AND TWO DOTS BELOW",
  ".agEQUIVALENT WITH FOUR DOTSabLESS-THAN WITH CIRCLE INSIDayGREATER!pbQUESTION MARK ABOVaãGREATER",
  "!kaOR SLANTED EQUAL TOazGREATER!âa WITH DOT INSIDEaîGREATER!ìbABOV!ïbABOV!ña RIGHT!ôa LEFT",
  "%nbAPPROXIMATauGREATER,kjAND SINGLE-LINE NOTaçGREATER%kmAND NOTazGREATER",
  "!laBOVE DOUBLE-LINE EQUAL ABOVE GREATER-THAN!oaBOVE DOUBLE-LINE EQUAL ABOVE LESS-THAN",
  "!qaSIMILAR OR EQUALaáGREATER%qtSIMILAR%tqSIMILAR%qgGREATER-THAN ABOVE DOUBLE-LINE",
  "aâGREATER-THAN ABOVE LESS(rgLANTED EQUAL ABOVE GREATER-THAN ABOVE SLANTED",
  "azGREATER-THAN ABOVE SLANTED EQUAL ABOVE LESS&akSLANTED EQUAL TO ORufGREATER!âa WITH DOT INSIDE",
  "uvGREATER%awDOUBLE-LINEyfGREATER!mvSLANTED åfGREATER*bnIMILARlfGREATER",
  "ibABOVE LESS-THAN ABOVE EQUALS SIGoxGREATER(gk NESTEDofGREATER!xa WITH UNDERBAR",
  ">naOVERLAPPING LESS-THANnkBESIDEaaLESS-THAN CLOSED BY CURVEavGREATER!za ABOVE SLANTED EQUAL",
  "aîGREATER:beMALLER ahLARG!ma OR EQUAL TOatLARG)acEQUALS SIGN WITH BUMPY ABO",
  "=anPRECEDES ABOVE SINGLE-LINaäSUCCEED!àaNOT EQUAL TOaåSUCCEED%pl%pl%pm%pm!pkALMOS!pkALMOS!ppNOT ",
  "!ppNOT aaDOUBLE PRECEDEShbSUCCEED$caBSET WITH DOTcmPER!maPLUS SIGN BELOWcyPER!mlMULTIPLICATION",
  "cçPER!haOF OR EQUAL TO WITH DOT ABOVEcæPER!kaABOVE EQUALS SIGNcyPER!qaTILDE OPERATORcàPER",
  "=cqBSET OF ABOVEcáPER!qkNOczPER&bjQUARE LEFT OPEN BOXhtRIGHaaCLOSED SUBSETjdPER!na OR EQUAL TO",
  "jpPER$ajSUBSET ABOVE*jaABOVE SUBSETcqB!rdPER$jiBESIDqgAND JOINED BY DASH WITH ",
  "aaELEMENT OF OPENING DOWNWARDSaaPITCHFORK WITH TEE TOPaaTRANSVERSAL INTERSECTIONaaFORKINGahNON",
  "aaSHORT LEFT TACKgfDOWNgfUPaaPERPENDICULAR WITH SaaVERTICAL BAR TRIPLE RIGHT TURNSTILE",
  "alDOUBLE VERTICAL BAR LEF!nlDOUBLE LEFaçDOUBLE aaLONG DASH FROM LEFT MEMBER OF DOUBLE VERTICAL",
  "*pa WITH OVERBAR*na WITH UNDERBARoaABOVE SHORT DOWN TACKakDOUBLEhfUPhaSTROKE NOT SIGNawREVERSED ",
  "!caES NOT DIVIDE WITH REVERSED NEGATION SLASH.jbLINE WITH CIRCLE ABOVßaBELOWasDOWN TACK",
  "aaPARALLEL WITH HORIZONTAL STROKEoaTILDE OPERATORaaTRIPLE VERTICAL BAR BINARY RELATION",
  "$axTRIPLE VERTICAL BAR$ajTRIPLE COLONhaNESTED LESS-THANofGREATER",
  ";ga-LINE SLANTED LESS-THAN OR EQUAL TOurGREATER)hqSOLIDUS(ajLARGE TRIPLE VERTICAL BAR",
  "ajDOUBLE SOLIDUSabWHITE VERTICAL BAasN-ARY baORTH EAST WHITE ARROWgoWE!atSOUgoWEanLEFT RIGH",
  "egWARDS BLACKarUParDOWN*lgBLACKgoWE!atSOUgoWE*lgBLACK)cm DOWNaaRIGHTWARDS ARROW WITH TIP DOWNWARDS",
  "ßfUP!aäLEFzfUPaaSQUARE WITH TOP HALF BLACKmlBOTTOMmlUPPER RIGHT DIAGONALmvLOWER LEF",
  "alDIAMOND WITH LEFTnmRIGHnlTOPnlBOTTOMbaOTTED SQUAREahBLACK LARGEanWHITE!ghVERY SMALLasWHITE",
  "!gaPENTAGONajWHITEgeHEX$geHEXanHORIZONTAL +mbCIRCLgaMEDIUM DIAMONDapWHITE!naLOZENGEapWHITE%giSMALL",
  "$giSMALLaoWHITE!gbHORIZONTAL ELLIPSatWHITE!gkVERTICarWHITE:ahLEFT ARROW WITH SMALL",
  "aaTHREE LEFTWARDS ARROWS!qaCIRCLED PLUSbaONG LEFTWARDS SQUIGGLE ARROW",
  "%ebWARDS TWO-HEADED ARROW WITH VERTICAL STROKåpDOUBLE àaFROM BARvaTRIPLE DASH ARROW",
  "kaARROW WITH DOTTED STEM&kvARROW WITH TAILäpDOUBLE (åaTAIL)åqTAIL WITHïpDOUBLE %qaTHROUGH X",
  "aaWAVE ARROW POINTING DIRECTLY LEFT+agEQUALS SIGN ABOVE LEFTWARDSawREVERSE TILDE OPERATOR",
  "%qaABOVE REVERSE ALMOST EQUAL TOaaRIGHTWARDS ARROW THROUGH GREATER-THANzaSUPERSET<kgQUADRUPLE",
  "awRIGH(âmRIGH(aïRIGH*aé*wp+ãaTILDE OPERATORaîRIGH%agDOWNWARDS TRIANGLE-HEADED ZIGZAG",
  "agSHORT SLANTED NORTHgiBACKSLANTED SOUaaWHITE MEDIUM STARafBLACK SMALLalWHITE",
  "!gaRIGHT-POINTING PENTAGONayWHITEaaHEAVY LARGE CIRCLEgbOVAL WITH OVAL INSIDghCIRCLE WITH CIRCLEma",
  "maD SALTIREaaSLANTED NORTH ARROW WITH HOOKED HEADaaBACKSLANTED SOUTH ARROW WITH HOOKED TAIL",
  "!àaRIZONTAL TAIL!äfRIZONTALbaENT ARROW POINTING DOWNWARDS THEN NORTH EASTaòSHORT ",
  "aaLEFTWARDS TRIANGLE-HEADED ARROWaàUPaàRIGHTaàDOWN%ew RIGHT%cw DOWNawNORTH WESTgyEAaâSOUgyWE",
  ",ßfDASHED açUPaçRIGHTaçDOWNagCLOCKWISE TRIANGLE-HEADED OPEN CIRCLEaðANTI>äa TO BARaçUPaçRIGHT",
  "açDOWN~2B76<åa TO BARgäEAaéSOUgäWE*åaWITH DOUBLE HORIZONTAL STROKEaþUPaþRIGHTaþDOWN",
  "aaHORIZONTAL TAB KEYakVERTIC(åaOVER RIGHTWARDS TRIANGLE-HEADED ARROW",
  "(ãaLEFTWARDS OF DOWNWARDS TRIANGLE-HEADED ARROW(æaOVER LEFTWARDS TRIANGLE-HEADED ARROW",
  "(åaLEFTWARDS OF UPWARDS TRIANGLE-HEADED ARROW%ßaPAIRED ARROWSaèUPaèRIGHTaèDOWN",
  "*kgBLACK CIRCLED WHITEaäUPaäRIGHTaäDOWN+aiANTICLOCKWISE TRIANGLE-HEADED RIGHT U-SHAPãpBOTTOMãpLEFT",
  "ãpTOPaaRETURN LEFThbRIGH!afNEWLINEibRIGHaaFOUR CORNER ARROWS CIRCLING ANTICLOCKWISE.rf",
  "~2B97aaSYMBOL FOR TYPE A ELECTRONICSaaTHREE-D TOP-LIGHTED LEFTWARDS EQUILATERAL ARROWHEAD",
  "iàRIGHT-LIGHTED UP!uáRIGHiàLEFT-LIGHTED DOWN%aåBLACKgàUPgàRIGHTgàDOWN",
  "aaDOWNWARDS TRIANGLE-HEADED ARROW WITH LONG TIP LEFTWARDSógRIGH!aøUP!aùUP",
  "afLEFTWARDS TRIANGLE-HEADED ARROW WITH LONG TIP UPa÷RIGH!ófDOWNaùRIGH",
  "+gaCURVED DOWNWARDS AND LEFTWARDS ARROWàmRIGH!nzUPzmRIGHnlLEFTWARDS AND UPnyRIGH!àlDOWNnßRIGH",
  "+caBBON ARROW DOWN LEFTsbRIGH!nfUP!ngUPnaLEFT UPneRIGH!saDOWNngRIGH",
  "aaUPWARDS WHITE ARROW FROM BAR WITH HORIZONTAL BARca ARROWHEAD IN A RECTANGLE BOX",
  "aaOVERLAPPING WHITE SQUARESshAND BLACK mnaaBALLOT BOX WITH LIGHT XacCIRCLEDibBOLD ",
  "aaBLACK SQUARE CENTREDgiDIAMONDaaTURNED BLACK PENTAGONafHORIZONTAL BLACK OCan",
  "&gjMEDIUM UP-POINTING TRIANGLnßDOWNnßLEFTnàRIGHaaNEPTUNE FORM TWOaaTOP HALF BLACK CIRCLEasBOTTOM",
  "aaLIGHT FOUR POINTED BLACK CUSPaâROTATED afWHITE FOUR POINTEDaxROTATED aaSQUARE POSITION INDICATOR",
  "aaUNCERTAINTY SIGNaaGROUP MARK,ajPLUTOmaHREElaFOURmaIVEaaTRANSPLUTOaaPROSERPINAabASTRAEacHYGI",
  "aaPHOLUSacNESS=gaMOON SELENAaaBLACK DIAMOND ON CROSS*caUE LIGHT MOON ARTAaaCUPIDOaaHADESabZEU",
  "abKRONOaaAPOLLONbaDMETOSabVULCANU$acPOSEIDaaLEFT HALF BLACK STARarRIGHaaSTAR WITH LEFT HALF BLACK",
  "kmRIGH%eaWARDS TWO-HEADED ARROW WITH TRIANGLE ARROWHEADSaôUPaôRIGHTaôDOWNaaERIS FORM ONEkaTWO",
  "aaSEDNAaaRUSSIAN ASTROLOGICAL SYMBOL VIGINTILEádNOV!ágQU!ágBIáaSENTAGON!ádTREDEC",
  "aaEQUALS SIGN WITH INFINITY BELOWaaUNITED SYMBOLakSEPARAajDOUBLajPASS(bcEVERSED RIGHT ANG",
  "!ahHELLSCHREIBER PAUSEaaGLAGOLITIC CAPITAL LETTER AZUßaBUKYßaVEDEßaGLAGOLIßaDOBROßaYESTUßaZHIVETE",
  "$àbZELßaZEMLJAßaIZHEàdNITIAL IàaßbDJERVßaKAKOßaLJUDIJEßbMYSLITßaNASHIßaONUßaPOKOJIßbRITSßaSLOVO",
  "ßbTVRIDßaUKUßbFRITßbHERßbOTßaPEßaSHTA+ßdßbCHRIV$áb)ßdYâaIàbAT%àcPIDERY %àbßaSMALL YUSèa WITH TAIL",
  "ßaYO$ßjIOTATED ßeBIG!çeBIG=ßcFIßbIZHITS<áaTAPICßaTROKUTASTI AßaLATINATE MYSLITEßaCAUDATE CHRIVI",
  "laSMALL LETTER AZUyaBUKYyaVEDEyaGLAGOLIyaDOBROyaYESTUyaZHIVETE$zbZELyaZEMLJAyaIZHEzdNITIAL Iza",
  "ybDJERVyaKAKOyaLJUDIJEybMYSLITyaNASHIyaONUyaPOKOJIybRITSyaSLOVOybTVRIDyaUKUybFRITybHERybOTyaPE",
  "yaSHTA+ydybCHRIV$ßb)ydYàaIzbAT%zcPIDERY %zbyaSMALL YUSæa WITH TAILyaYO$yjIOTATED yeBIG!åeBIG=ycFI",
  "ybIZHITSyaSHTAPICyaTROKUTASTI AyaLATINATE MYSLITEyaCAUDATE CHRIVI",
  "aaLATIN CAPITAL LETTER L WITH DOUBLE BARgßSMAL!áaMIDDLE TILDEvbP WITH STROKvaR WITH TAIL",
  "%taA WITH STROKEthT WITH DIAGONAL)vbH WITH DESCENDEgzSMAL!vpK!tpK!vpZ!tpZ!vaALPHAvaM WITH HOOK",
  "vaTURNED AâaLPHA&taV WITH RIGHT HOOK%vkWguSMAL$ßaCURL<waALF HgpSMALtaTAILLESS PHItaE WITH NOTCH",
  "taTURNED R WITH TAILtaO WITH LOW RING INSIDEgbLETTER SMALL CAPITAL TURNED ",
  "gaSUBSCRIPT SMALL LETTER JaaMODIFIER LETTER CAPITAL V+vaS WITH SWASH TAILvqZ",
  "aaCOPTIC CAPITAL LETTER ALFAhnSMAL!wbVIDhnSMAL!wbGAMMhoSMAL%wcDALhoSMAL!waEIEhmSMAL!waSOUhmSMAL",
  "(wbZAThnSMAL(wbHAThnSMAL!wbTHETHhpSMAL:wcIAUhoSMAL!wbKAPhnSMAL!wbLAULhoSMAL!waMI!uaMI!wbN!ubN!wbKS",
  "!ubKS!waO!uaO%wbP%ubP%wbR%ubR<wbSIMhnSMAL!waTAUhmSMAL%wbU%ubU,wbF,ubF>xbH>vbH<xbS<vbS,wbOO,ubOO",
  "!waDIALECT-P ALEFhxSMAL%xaLD COPTIC AINhxSMAL!waCRYPTOGRAMMIC EIEhßSMAL(åaKAPAhxSMAL!åaNIhvSMAL",
  "(éaNIhzSMAL,æaOOUhxSMAL%wbSAMPhoSMAL(ybOSSED SHEhvSMAL(æaSHEIhySMAL!æaESHhxSMAL%wdAKHMIMIC KhwSMAL",
  ">åbHORhxSMAL*æbHORhySMAL!çaA!åaA!wdL-SHAPEDhuSMAL<æd<äd(èaT(æaT*æbGANGIhßSMAL!æbDJhxSMAL!æbSHIM",
  "hzSMAL!ßgNUBIANhzSMAL!æaNGIhxSMAL!çbY!åbY!æaWAUhxSMALiaYMBOL KAIoaMI ROoePoaSTAUROS!odTAUodKHI",
  "oaSHIMA SIMA.wbCRYPTOGRAMMIC SHEhàSMAL!éaGANGIAhâSMALhaCOMBINING NI ABOVEraSPIRITUS ASPERßaLENIS",
  ")wdBOHAIRIC KhwSMAL~2CF9haOLD NUBIAN FULL STOPsaDIRECT QUESTION MARKsuINsaVERSE DIVIDER",
  "haFRACTION ONE HALF&hj$hiMORPHOLOGICALaaGEORGIAN SMALL LETTER ANwcBwcGwbDOwbEwbVIwbZEwbTAwbIwbKA",
  "waLAS!wcMwaNAR,wc!wcPwcZHwaRAE(wcS$wcTwaUN&wdPwdK&wcGH!wcQ)xbHIwdCxbAwaJILwcC*wdC%wcXwcJH>wcHxbxbI",
  "wbW)wdxaOE~2D27waYN~2D2DwbAE~2D30aaTIFINAGH LETTER YAsaBtaHsaGtaHHqaBERBER ACADEMY YAJqdsaDtaHtaD",
  "uaHraEYraAFsaKqdTUAREG .scKsb:æaH%zaH%scsaA(ua%zbK!saQ!zaQqaYI&sbZqeAHAGGAR (zbZ$saLsaMsaN%zaGN",
  "zaNG$saPraUraARtaRsaGH.zbGqfAYER$saStaStaHsaTtaHsbCsaTTsaVsaWsaYsaZqdTAWELLEMET !taZraEraO",
  "~2D6FjaMODIFIER LETTER LABIALIZATION MARKjfSEPARATOR~2D7FjaCONSONANT JOINERaaETHIOPIC SYLLABLE LOA",
  "scMscRscStcHscBscTscCscNtcYscGLOTTAL scZscDtcDscJscTHsdCsdPtcsbGGWvaIvaEEwa~2DA0saSSAuaUuaIuaAA",
  "uaEEvauaO~2DA8<tbCuaUuaIuaAAuaEEvauaO~2DB0saZZAuaUuaIuaAAuaEEvauaO~2DB8.ubHvaUvaIvaAAvaEEwavaO",
  "~2DC0saQYAuaUuaIuaAAuaEEvauaO~2DC8)scKuaUuaIuaAAuaEEvauaO~2DD0)scXuaUuaIuaAAuaEEvauaO~2DD8)scGuaU",
  "uaIuaAAuaEEvauaO~2DE0aaCOMBINING CYRILLIC LETTER BEßbVßbGHßbDßbZHàbßaKAßaELàaMàaNßaOßaPEßaERàaS",
  "ßaTEßaHA!àbSßbCH$ßcSábCHßbFIT)ßcES-ßaAßaIEßaDJERVßaMONOGRAPH UKßaYATàaUßaIOTIFIED AßaLITTLE YUS",
  "ßeBIG$èaBIG YUSaaRIGHT ANGLE SUBSTITUTION MARKERmtDOTTED aaLEFT SUBSTITUTION BRACKETawRIGH",
  "!fuDOTTED aâRIGH&blAISED INTERPOLAhuDOTTED alDOTTED TRANSPOSI&fmTRANSPOSIaxRIGH%haSQUARE",
  "$flRAISED OMISSazRIGHaaEDITORIAL CORONISabPARAGRAPHOalFORKED asREVERSED aaHYPODIASTOLE.haOBELOS",
  "caWNWARDS ANCORAamUP$haRIGHT-POINTING ANGLEcaUBLE OBLIQUE HYPHENaaINVERTED INTERROBANG,caLM BRANCH",
  "*daHEN WITH DIAERESISaaTILDE WITH RING ABOVE>fiLOW PARAPHRASEayRIGH$lgDOTpaBELOW",
  "%faVERTICAL BAR WITH QUILLazRIGH&aiTOP LEFT HALFeoRIGH!asBOTTOMhoRIGH,fiSIDEWAYS UauRIGH",
  "!faDOUBLE PARENTHESISauRIGHaaTWO DOTS OVER ONE DOT PUNCTUATIONamONE DOT OVER TWO DOTS",
  "!aqSQUARED FOURaaFIVE DOT MARKafREVERSED QUESTIONaaVERTICAL TILDE+cbNG POIN",
  "abWORD SEPARATOR MIDDLE DOaaTURNED COMMA!aeRAISEDhaCOMMA$haSEMICOLONaaDAGGER WITH LEFT GUARDmhRIGH",
  "$haDAGGERbaOP HALF SECTION SIGN>da-EM DASHbiHREEaaSTENOGRAPHIC FULL STOP<jaSIX DOTS",
  "aaWIGGLY VERTICAL LINEaaCAPITULUMaaDOUBLE HYPHEN;bjEVER!haLOW-REVERSED-9 QUOTATION MARK",
  "baASH WITH LEFT UPTURN!hiSUSPENSaaINVERTED LOW KAVYKAta WITH KAVYKA ABOVE!akka WITH DOT",
  "&iaTACKED COMMAcaTTED SOLIDUSaaTRIPLE DAGGER$agMEDIEVAL+afPARAGRAPHUSbhUNCTUS ELEVAT",
  "%acCORNISH VERSE DIVIDbbROSS PATTY WITH RIGHT CROSSBArkLEFaaTIRONIAN SIGN CAPITAL ET",
  ")jaEXCLAMATION MARKjjQUESaaLEFT SQUARE BRACKET WITH STROKEaáRIGH!zgDOUBLE aèRIGH",
  "aaTOP HALF LEFT PARENTHESISjnRIGH!awBOTTOMmnRIGHaaOBLIQUE HYPHEN~2E80aaCJK RADICAL REPEATmaCLIFF",
  "maSECOND ONEtaTWOuaHREEmaPERSONmaBOXmaTABLE(meKNIFEsaTWO&mcDIVINATI)oaAL,neMALLsaTWO(mfLAMraTWO",
  "saHREEraFOUR(nbNAKmaTHREAD*neNOUTsaTWO!mfHEARsaTWOnaANDmaRAP~2E9B*mcCHOmaSUNmbMOOmaDEATH!oaTHER",
  "maCIVILIAN,meWATERsaTWOmaFIRE$mePAWqaTWOmaSIMPLIFIED HALF TREE TRUNKmaCOWmaDOGmaJADE:mcBOLT OF CLO",
  "maEYE*meSPIRITtaTWOmbBAMBO+obLmeC-SIMPLIFIED &mfNEqaTWOraHREEqaFOURmaMESHmaSHEEPmaRAM;nbWmaOLD",
  "+meBRUSHsaTWO)oaATnaORTAR%meGRASSsaTWOtaHREEmaTIGERmaCLOTHES&meWESTraTWO&mcC-SIMPLIFIED S",
  "maSIMPLIFIED HORNme$ßaPEECHßaHELLmaFOOT!zaCART(xaWALK,neALKraTWOmaCITY&zaGOLD%meLONGraTWO$zaLONG",
  "zaGATE%meMOUNDsaTWOmaRAINmaBLUE&zaTANNED LEATHERzaLEAFzaWINDzaFLY*meEATqaTWOraHREE%zaEATmaHEAD",
  "<zbHORS(mdBmaGHOST$zaFISHzaBIRDzaSALT*mdSIMPLIFIED WHxaYELLOW$zaFROGmaJ-SIMPLIFIED EVENmqC!zaTOOTH",
  "mrC%zbDRAGOmsCmaTURTLE$zaTURTLEmsC~2F00abKANGXI RADICAL ONpcLIpaDOTpaSLASHqaECONDpaHOOKpaTWO(raD",
  "paMANpaLEGSpaENTERqaIGHT,raWN BOX$pcCOVpaICEpbTABL%pfOPEpaKNIFE&pcPOWpaWRAPpaSPOON&piRIGHT ",
  "paHIDING ENCLOSUREpaTENpbDIVINATIOpaSEALpaCLIFFpaPRIVATEpaAGAINpaMOUTH*pjqaARTHpaSCHOLARpaGO",
  "ra SLOWLYpaEVENINGpbBIpaWOMANpaCHILDpaROOFpaINCH>qbMALpaLAMEpbCORPSpaSPROUT>saNTAINpaRIVER,raRK",
  "paONESELF:pcTURBpaDRYpaSHORT THREADpaDOTTED CLIFF.qbONG STRIDpaTWO HANDS%saOTpaBOW;qdNpaBRISTLE",
  "paSTEPpaHEARTqaALBERD,raOR!rbN(raANCHpaRAP+qbCRIP&qbIPPEpaAXEpbSQUAR=pcNpaSUNqaAYpaMOONpaTREE",
  "paLACKpaSTOPpaDEATH&pcWEAP+pdDO .pdCOMPpaFURpaCLAN)raEAMpaWATER&pcFI%saW$pcFATH+raUBLE X",
  "paHALF TREE TRUNKpaSLICE%raNG(qbO&raGpaPROFOUNDpaJADEpaMELONpaTILEpaSWEETpaLIFEpbUS>raELD",
  "paBOLT OF CLOTHpaSICKNESS.raTTED TENTpaWHITEpaSKINpaDISHpaEYEpaSPEARpaARROWpaSTONEqaPIRITpaTRACK",
  "*pcGRApaCAVE&raANDpaBAMBOOpaRICE>raLK.pcJpaNETpaSHEEPpaFEATHERpaOLD+pd>pcPL)pcEpaBRUSHpaMEAT",
  "qaINISTERpaSELFpaARRIVE$qbORTApaTONGUEpbOPPOS)pcBOpaSTOPPINGpaCOLORpaGRASS,pcTIGpaINSECTpaBLOOD",
  "paWALK ENCLOSUREpaCLOTHESpaWEST=raEpaHORNpaSPEECHpaVALLEYpaBEANpaPIG:pdBADpaSHELLpaREDqaUNpaFOOT",
  "paBODYpaCART)qcITTpaMORNINGpaWALKpaCITYpaWINEpaDISTINGUISHpaVILLAGEpaGOLD)pcLOpaGATE+raUNDpaSLAVE",
  "qaHORT TAILED BIRDpaRAINpaBLUE)pdWRpaFACEpaLEATHERphTANNED !raEK,peS%saF!pcWIpaFLYpaEATpaHEAD",
  "paFRAGRANTpaHORSEpbBON.raLLpaHAIR&qbIGH%pcSACRIFICIAL WIpaCAULDRONpaGHOST%raSHpaBIRD&raLTpaDEER",
  "=pdWH=raMPpaYELLOWpaMILLETpaBLACKpaEMBROIDERYpaFROGpaTRIPODpaDRUM+pcRpaNOSEpaEVENpaTOOTH&raAGON",
  "paTURTLEpbFLUT~2FF0aaIDEOGRAPHIC DESCRIPTION CHARACTER LEFT TO RIGHTçaABOVE TO BELOW!ïfMIDDLE AND ",
  "!ðfMIDDLE AND çaFULL SURROUNDçaSURROUND FROM ABOVEõaBELOWõaLEFTõeUPPER ûbRIGH!õhLOWçaOVERLAID"]

end Conductor.CharName
