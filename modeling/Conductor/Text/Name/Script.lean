/-! The names of letters and signs of further scripts in use, with the accented Latin and Greek letters. -/

namespace Conductor.CharName

def scripts : List String := [
  "~1000aaMYANMAR LETTER KAqbHpbGqbHpbNGpbCqbHpbJqbHpbNYqcNpbTTrbHpbDDrbH&rbpbTqbHpbDqbHpbNpbPqbHpbB",
  "qbHpbMpbYpbRpbLpbWpbSpbHpbLLpbpbSHAN paIqaIpaUqaUpaEpbMON paOpaAUiaVOWEL SIGN TALL AAtctaIuaItaU",
  "uaUtaEtaAItbMON IxaOtaE ABOVEiaSIGN ANUSVARAnaDOT BELOWnaVISARGApbRAMnaASAT",
  "iaCONSONANT SIGN MEDIAL YAãbRãbWãbHibLETTER GREAT SiaDIGIT ZEROoaONEoaTWOpaHREEoaFOURpaIVEoaSIX",
  "paEVENoaEIGHT*ocNI>naLITTLE SECTIONnh)idSYMBOL LOCATpaCOMPLETEDpcAFOREMENTION$peGENIiaLETTER SHA",
  "qbSpaVOCALIC RyaRxaLyaL%ikVOWEL SIGNáaRàaLáaL+pbMON NGtbJHtbBBvaEiaCONSONANT SIGN MON MEDIAL NAçbM",
  "çbL(pcSGAW KAREN S+taSGAW KAREN EUiaTONE MARK SGAW KAREN HATHIâaKE PHO%pcWESTERN PWO KAREN TæbPW",
  "&tjWESTERN PWOêaUEiaSIGN WESTERN PWO KAREN TONE-1éa2éa3éa4éa5*pbEASTERN PWO KAREN NNæbYWæcGH",
  "+taGEBA KAREN ItaKAYAH OEzaUzaEE&pbSHAN KvbHubGubCubZubNYubDubNubPHubFubBubTHuc",
  "ibCONSONANT SIGN SHAN MEDIAL W=taSHAN AAyaEza ABOVEyaFINAL YiaSIGN SHAN TONE-2xa3xa5xa6%sgCOUNCIL ",
  "äa3ßaEMPHATIC TONE>pdRUMAI PALAUNG(nhRUMAI PALAUNGjaHAN DIGIT ZEROtaONEtaTWOuaHREEtaFOURuaIVEtaSIX",
  "uaEVENtaEIGHT*tcNI.naKHAMTI TONE-1za3iaVOWEL SIGN AITON AßaI;jeYMBOL SHANuaEXCLAMATION",
  "abGEORGIAN CAPITAL LETTER AycBycGybDOybEybVIybZEybTAybIybKAyaLAS!ycMyaNAR,yc!ycPycZHyaRAE(ycS$ycT",
  "yaUN&ydPydK&ycGH!ycQ)zbHIydCzbAyaJILycC*ydC%ycXycJH>ycHzbzbIybW)ydzaOE~10C7yaYN~10CDybAE",
  "~10D0jbLETTER AqcBqcGqbDOqbEqbVIqbZEqbTAqbIqbKAqaLAS!qcMqaNAR,qc!qcPqcZHqaRAE(qcS$qcTqaUN&qdPqdK",
  "&qcGH!qcQ)rbHIqdCrbAqaJILqcC*qdC%qcXqcJH>qcHrbrbIqbW)qdraOEqaFIqaYN!qcELI,qcTURNED GqbAI",
  "jaPARAGRAPH SEPARATORabMODIFIER LETTER GEORGIAN NA$rbE,taD SIGNqfLABIALaaHANGUL CHOSEONG KIYEOK",
  "qgSSANGqaNIEUNqaTIKEUTqgSSANGqaRIEULqaMIEUMqaPIEUPqfSSANGraIOSrdSANGSqaIEUNGqaCIEUCqfSSANG",
  "qaCHIEUCHqbKHIEUKqbTHIEUTqbPHIEUPqbHIEUqaNIEUN-KIYEOK)vaNIEUN!waTIKEUTwaPIEUP%qhTIKEUT%qfRIEUL-",
  "&vaRIEUL!waHIEUH!qfKAPYEOUN(qgMIEUM!yaMIEUM)qhPIEUPwaNIEUNwaTIKEUTwaSIOS%wgSIOS-$wgSIOS-àaPIEUP",
  "%xdSANGS!àaCIEUCwfxaHIEUCHwbTHIEUTwbPHIEUP<yaPIEUPyfSSANG.qlvaNIEUN:qlvaRIEULvaMIEUM<qk(vgPIEUP-",
  "=qkSIOSvaIEUNG>qk=qiSIOSvbKHIEUK>qiSIOS>qiSIOSvbHIEU*qeCHITUEUMzdSANGS!rhEONGCHIádSANGSqePAN",
  "<qhIEUNGwaTIKEUTwaMIEUMwaPIEUPwaSIOSwePANqaSSANGIEUNG!waCIEUCxaHIEUCHwbTHIEUTwbPHIEUP&qfYES",
  "qfCIEUC-(qfCHITUEUMyfSSANG!riEONGCHIàfSSANG$taEUCH-KHIEUKHybHIEU(zaHIEUCHrkEONGCHIqaPHIEUPH-PIEUP",
  ":qhKAPYEOUN&qfSSANGqfYEORINqaKIYEOK-TIKEUTqaNIEUN-SIOSwaCIEUCwaHIEUHqaTIKEUT-RIEULqaFILLERhmJUNG",
  "raAsaEraYAtaEraEOsa!rcYtaraOraWAtaErbO(sbraU*rcWtasaIraYUrbEraYIrbraA-OtaU!rdYubYrbEO-uaUubE$reY",
  "vaU>rcO-uatbYtaOtaUraYO-YAwaEvaEOubuaIraU-AuaE=rfU-taYEtaU&rdYuaEOva!ucYwauaUuaI!rdEubE%scI,rcItbY",
  "taOtaUtbEtaARAEArfwa-EOxaUxaI%rfSSANG)rdA%rdY:rdYEOrevaEiaONGSEONG KIYEOKrgSSANG!xa-SIOSraNIEUN",
  "wa-CIEUCxaHIEUHraTIKEUTraRIEULwa-KIYEOKxaMIEUMxaPIEUPxaSIOSxaTHIEUTHxbPHIEUPxbHIEU(rf(rfwa-SIOSre",
  "sdSANGSraIEUNGraCIEUCsaHIEUCHrbKHIEUK:rh:rh:rfraKIYEOK-RIEULyaSIOS-KIYEOKrhNIEUNxaTIKEUTxaSIOS",
  "xePANxaTHIEUTH&rhTIKEUTyaRIEUL&rfRIEUL-KIYEOKxaNIEUNxaTIKEUTâa-HIEUH&rfSSANG)rhRIEUL-MIEUMâaSIOS",
  "xfPIEUPâaHIEUHxaKAPYEOUNPIEUP$xeSSANGxePANxaKHIEUKH&xfYEORIN+rmxaRIEULxaPIEUP.rkydSANGSxePAN",
  "xaCHIEUCHxbHIEUraKAPYEOUNMIEUM*rgPIEUPxaPHIEUPHxbHIEU%zaPIEUP;rhSIOSwaTIKEUTwaRIEULwaPIEUP:rh",
  "&rhIEUNGxgSSANGraSSANGIEUNG$yaHIEUKH!rfYESza-SIOSßePAN+rgPHIEUPH<ßaHIEUPHraHIEUH-NIEUNxaRIEUL",
  "xaMIEUMxaPIEUP)taORINHIEUH&rgKIYEOKyaPIEUPyaCHIEUCHybKHIEUKybHIEU&rfSSANGaaETHIOPIC SYLLABLE HAtaU",
  "taItaAAtaEEuataOuaAsbLtaUtaItaAAtaEEuataOtaWAsbHHuaUuaIuaAAuaEEvauaOuaWAsbMtaUtaItaAAtaEEuataOtaWA",
  "sbSZuaUuaIuaAAuaEEvauaOuaWAsbRtaUtaItaAAtaEEuataOtaWAsbStaUtaI>tc>tcuataO>tctbHuaUuaIuaAAuaEEvauaO",
  "uaWAsbQtaUtaItaAAtaEEuataOuaAtbW~124AuaIuaAAuaEEva~1250taHAuaUuaIuaAAuaEEvauaO~1258uaWA~125AvaI",
  "vaAAvaEEwa~1260saBAtaUtaItaAAtaEEuataOtaWAsbVtaUtaItaAAtaEEuataOtaWAsbTtaUtaItaAAtaEEuataOtaWAsbC",
  "taUtaItaAAtaEEuataOtaWAsbXtaUtaItaAAtaEEuataOuaAtbW~128AuaIuaAAuaEEva~1290saNAtaUtaItaAAtaEEuataO",
  "taWAtbYuaUuaIuaAAuaEEvauaOuaWAsbGLOTTAL ßaUßaIßaAAßaEEàaßaOßaWAsbKtaUtaItaAAtaEEuataOuaAtbW",
  "~12B2uaIuaAAuaEEva~12B8taXAuaUuaIuaAAuaEEvauaO~12C0uaWA~12C2vaIvaAAvaEEwa~12C8&sctaUtaI(sd(sduataO",
  "uaAsbPHARYNGEAL âaUâaIâaAAâaEEãaâaO~12D8saZAtaUtaItaAAtaEEuataOtaWAtbHuaUuaIuaAAuaEEvauaOuaWAsbY",
  "taUtaItaAAtaEEuataOuaAsbDtaUtaItaAAtaEEuataOtaWAtbDuaUuaIuaAAuaEEvauaOuaWAsbJtaUtaItaAAtaEEuataO",
  "taWAsbGtaUtaItaAAtaEEuataOuaAtbW~1312uaIuaAAuaEEva~1318taGAuaUuaIuaAAuaEEvauaO%ucWsbTHuaUuaIuaAA",
  "uaEEvauaOuaWAsbCHuaUuaIuaAAuaEEvauaOuaWAsbPHuaUuaIuaAAuaEEvauaOuaWAsbTSuaUuaIuaAAuaEEvauaOuaWAtbZ",
  "uaUuaIuaAAuaEEvauaOvaAsbFtaUtaItaAAtaEEuataOtaWAsbPtaUtaItaAAtaEEuataOtaWAsbRYscMscF",
  "~135DjaCOMBINING GEMINATION AND VOWEL LENGTH MARKtr!ãejjSECjaWORDSPACEjaFULL STOP%maMA%laMICOLONjf",
  "jfPREFACE )jjQUESjaPARAGRAPH SEPARATORjaDIGIT ONEpaTWOqaHREEpaFOURqaIVEpaSIXqaEVENpaEIGHT*pcNI",
  "$jcNUMBER TraWENTYrcHIRqdFOrcIFqcSIXrcEVENqcEIGHqcNINEqaHUNDRED,ta THOUSAND",
  "~1380jaSYLLABLE SEBATBEIT MWAsaMWIuaEEva%ácB%scBuaEEva%ácF%scFuaEEva%ácP%scPuaEEva",
  "jaTONAL MARK YIZETucDERuaRIKRIKugSHORT $vbIFAucKEN&udCHIucHIDufDERET-ubKUR~13A0aaCHEROKEE LETTER A",
  "qaEqaIqaOqaUqaVqaGAqbKqaGEraIraOraUraVqaHAraEraIraOraUraVqaLAraEraIraOraUraVqaMAraEraIraOraUqaNA",
  "qcH!saHraEraIraOraUraVqaQUAsaEsaIsaOsaUsaVqaSAraraEraIraOraUraVqaDAqbTqaDEqbTqaDIqbTqaDOraUraVraLA",
  "qcTsaEsaIsaOsaUsaVraSAsaEsaIsaOsaUsaVqaWAraEraIraOraUraVqaYAraEraIraOraUraVqbM~13F8(jjSMALL xaIxaO",
  "xaUxaVwbM~1400baANADIAN SYLLABICS HYPHENtaEtaAAItbuaItaOuaOtcY-CREE taCARRIER EEàaItaAuaAtaWE",
  "vaST-CREE WEuaI!ãaIubI!äaIuaO!ãaOubO!äaOteNASKAPItaWA$ãaAubA!äaA&áaAAtaAItaY-CREE WtaGLOTTAL STOP",
  "taFINAL ACUTEzbGRAVzaBOTTOM HALF RINGzkTOPzkRIGHTàc(zfDOUBLE åaSHORT VERTICAL STROKESzaMIDDLE DOT",
  "zaSHORT HORIZONTAL STROKEzaPLUSzaDOWN TACKtaENtbItbOtbAtaPEuaAAIubvaIuaOvaOtdY-CREE taCARRIER HEE",
  "áaI*vavaAuaWEtdWEST-CREE !vaI!äaI!waI!åaI!vaO!äaO!waO!åaO!vaA!äaA!waA!åaAtkYtaP$ãataCARRIER HtaTE",
  "uaAAIubvaIuaOvaO,ßaTOO*àaDEEáaI*vavaAuaWE<âaTWE!vaI!äaI!waI!åaI!vaO!äaO!waO!åaO!vaA!äaA!waA!åaA",
  "tfNASKAPItaTuaTEvaIvaOvaAtaKEuaAAIubvaIuaOvaOtdY-CREE (vavaAuaWEtdWEST-CREE !vaI!äaI!waI!åaI!vaO",
  "!äaO!waO!åaO!vaA!äaA!waA!åaAtfNASKAPItaKuaWtaSOUTH-SLAVEY KEHæbIæbOæbAtaCEuaAAIubvaIuaOvaO",
  "tdY-CREE (vavaAuaWEtdWEST-CREE !vaI!äaI!waI!åaI!vaO!äaO!waO!åaO!vaA!äaA!waA!åaAtfNASKAPItaC",
  "taSAYISI THtaMEuaAAIubvaIuaOvaOtdY-CREE (vavaAuaWE<âaMWE!vaI!äaI!waI!åaI!vaO!äaO!waO!åaO!vaA!äaA",
  "!waA!åaAtfNASKAPItaM$ãataMH!tcATHAPASCANtcSAYISItaNEuaAAIubvaIuaOvaOtdY-CREE (vavaAuaWE<âaNWE!vaA",
  "!äaA!waA!åaAtfNASKAPIuataCARRIER NGtaNHtaLEuaAAIubvaIuaOvaOtdY-CREE (vavaAuaWE=âaLWE!vaI!äaI!waI",
  "!åaI!vaO!äaO!waO!åaO!vaA!äaA!waA!åaAtaL!ãatcMEDIALtaSEuaAAIubvaIuaOvaOtdY-CREE (vavaAuaWE:âaSWE",
  "!vaI!äaI!waI!åaI!vaO!äaO!waO!åaO!vaA!äaA!waA!åaAtfNASKAPItaStbATHAPASCAN &va!tcBLACKFOOT",
  "taMOOSE-CREE SK(áaKWáb-áaPWAácTácKácCtaSHEvaIwaIvaOwaOvaAwaAvaWEteWEST-CREE !waI!åaI!xaI!æaI!waO",
  "!åaO!xaO!æaO!waA!åaA!xaA!æaA!vataYEuaAAIubvaIuaOvaOuc-CREE YuaAvaAuaWE:âaYWE!vaI!äaI!waI!åaI!vaO",
  "!äaO!waO!åaO!vaA!äaA!waA!åaAtfNASKAPItaYtbBIBLE-CREE %ãataSAYISI YItaREub-CREE R%âaLEtaRAAIubvaI",
  "uaOvaO(ãaO(vavaA$ãaA!ucW!âbRWAtaR!ãatcMEDIALtaFE=tdFubvaIuaOvaOuaAvaAucW;âdFtaFtaTHEtdN-CREE !vaI",
  "!áaI!waI!âaI!vaOwaOvaAwaAvcW;âdTH!va:tdTwaIwaOwaAwauaYEvaIvaOvaA+tcNUNAVIK áaIâaIáaOâaOáaAâaAáa",
  "ycUTtaHKtaQAAIubvaIuaOvaOuaAvaAuataTLHEwaIwaOwaAtaWEST-CREE REãaIãaOãaA>tdNGvbwaIvaOwaOvaAwaAvaubN",
  "taSAYISI SHEáaIáaOáaA%tcWOODS-CREE TåaIåaOåaAåa%tcLwaIvaOwaOvaAwaAva:tjTHâaIãaIâaOãaOâaAãaAâa",
  "taAIVILIK BtaBLACKFOOT EâaIâaOâaAâaWEãaIãaOãaAâaNEãaIãaOãaAâaKEãaIãaOãaAtaSAYISI HEàaIàaOàaA",
  "taCARRIER GHUâaOâaEãaEâaIâaAàaRUáaOáaEâaEáaIáaAàaWUáaOáaEâaEáaIáaA(àcHâaOâaEãaEâaIâaAàaTHUâaOâaE",
  "ãaEâaIâaAáaTUâaOâaEãaEâaIâaAàaPUáaOáaEâaEáaIáaAáaàaGUáaOáaEâaEáaIáaAàaKHUâaOâaEãaEâaIâaAáaKUâaOâaE",
  "ãaEâaIâaAâaàaNUáaOáaEâaEáaIáaAàaMUáaOáaEâaEáaIáaAàaYUáaOáaEâaEáaIáaAàaJUtdSAYISI!áaOáaEâaEáaI&àaI",
  "!áaAáaJUâaOâaEãaEâaIâaAàaLUáaOáaEâaEáaIáaA(àcDâaOâaEãaEâaIâaA:ábHâaOâaEãaEâaIâaA(àdTãaOãaEäaEãaI",
  "ãaAâaUâaOâaEãaEâaIâaAàaZUáaOáaEâaEáaIáaAáaàbINITIAL *àcDâaOâaEãaEâaIâaAàaSUáaOáaEâaEáaIáaAáaHUâaO",
  "âaEãaEâaIâaAâa;àcTâaOâaEãaEâaIâaA;àcCâaOâaEãaEâaIâaA:ácTãaOãaEäaEãaIãaAuaHI SIGNtaFULL STOPtaQAI",
  "tcNGubNGxaIwaOxaOwaAxaA;tcWOODS-CREE THWæaIçaIæaOçaOæaAçaAãaFINAL THtaBLACKFOOT W",
  "aaOGHAM SPACE MARKgaLETTER BEITHnaLUISnaFEARNnaSAILnaNION&ncUAnaDAIRnaTINNEnaCOLLoaEIRTnaMUIN!ncGO",
  "naNGEADALnaSTRAIF;ndRnaAILMnaONNnaURnaEADHADHnfIO!peBnaOR(ncUILLEAnbIFI>ndEAMHANCHnaPEITH",
  "gaFEATHER MARKgmREVERSED ~16A0aaRUNIC LETTER FEHU FEOH FE FnaVnaURUZ UR UnaYRoanaW",
  "naTHURISAZ THURS THORNnaETHnaANSUZ AnaOS O!ocCoaESC$ndLONG-BRANCH-OSngSHORT-TWIGnboaEoaN",
  "naRAIDO RAD REID RnaKAUNAnaCEN!ra KnaGnbENnbGEBO GYFU oaARnaWUNJO WYNN WnaHAGLAZ HpcEGL>zaHAGALL H",
  ">yaHAGALL HnaNAUDIZ NYD NAUD N!yaNAUD NnbDOTTED-naISAZ IS ISS InaEnaJERAN J:obE+zaAR AE)yaAR A",
  "naIWAZ EOHnaPERTHO PEORTH PnaALGIZ EOLHXnaSOWILO SocIGEL LONG-BRANCH-SOL(yaSOL SnaCnaZ",
  "naTIWAZ TIR TYR T%yaTYR TnaDnaBERKANAN BEORC BJARKAN B$yaBJARKAN BnaDOTTED-PncOPENnaEHWAZ EH E",
  "naMANNAZ MAN MncLONG-BRANCH-MADR(yaMADR MnaLAUKAZ LAGU LOGR L)uaLnaINGWAZqanaDAGAZ DAEG D",
  "naOTHALAN ETHEL OnaEARnbIOnaCWEORTHoaALCodEnaSTAN<zaYR<yaYRndICELANDICnaQnaXgaSINGLE PUNCTUATION",
  "goMULTIPgmCROSSgaARLAUG SYMBOLghTVIMADURgiBELGTHO)naK.panaOOnaFRANKS CASKET OSàbIàaEHàaACábES",
  "~1700aaTAGALOG LETTER ApaIpaUpaKApbGpcNpbTpbDpbNpbPpbBpbMpbYpbRpbLpbWpbSpbHiaVOWEL SIGN ItaU",
  "+icSIGN VIRAnaPAMUDPOD~171F+pcARCHAIC abHANUNOO LETTER paIpaUpaKApbGpcNpbTpbDpbNpbPpbBpbMpbYpbRpbL",
  "pbWpbSpbHiaVOWEL SIGN ItaUiaSIGN PAMUDPODaaPHILIPPINE SINGLE PUNCTUATIONloDOUB",
  "~1740aaBUHID LETTER AnaInaUnaKAnbGncNnbTnbDnbNnbPnbBnbMnbYnbRnbLnbWnbSnbHgaVOWEL SIGN IraU",
  "~1760aaTAGBANWA LETTER AqaIqaUqaKAqbGqcNqbTqbDqbNqbPqbBqbMqbY~176EqbLqbWqbS~1772=jcVOWEL SIGNuaU",
  "~1780=akKHMERobHoaOobHnbNGnaCAobHoaOobHnbNYnaDAnbTTHnaDO!qaOnbNN%obobHoaOobHnbNnaBAnbPHoaOobHnbM",
  "nbYnbRnbLnbV*ncSoaSOoaAnbHnbLnbQgaINDEPENDENT VOWEL QAQßaAzaIßaIzaUßaKßaUàaVyaRYßaYybLßaYyaQEzaAI",
  "zaOO TYPE ONEæaTWOzaAUgaVOWEL INHERENT AQwaAmdSIGNraIsaIraYsaYraUsaUsaAraOEraYAraIErbrbAsaIraOO",
  "raAUgaSIGN NIKAHITlaREAHMUKlaYUUKALEAPINTUlaMUUSIKATOANlaTRIISAPlaBANTOClaROBATlcTOANDAKHIlcKAKAB",
  "laAHSDAlbSAMYOK SANNYlaVIRIAMlaCOENG&lcBATHAMAS.lcKHlcBARIYOOSlaCAMNUC PII KUUHlaLEK TOOlaBEYYAL",
  "%lcPHNAEK MU:mbOOMUUgaCURRENCY SYMBOL RIEL:ldAVAKRAHASAmaTTHACAN~17E0gaDIGIT ZEROmaONEmaTWOnaHREE",
  "maFOURnaIVEmaSIXnaEVENmaEIGHT*mcNI~17F0.hbYMBOL LEK ATTAK SOxaMUOYxaPIIxbBEyaUONxaPRAMàa-MUOYáaPII",
  "ábBEâaUON~1800aaMONGOLIAN BIRGAkaELLIPSISkaCOMMAkaFULL STOP!maLONkaFOUR DOTSkaTODO SOFT HYPHEN",
  "kaSIBE SYLLABLE BOUNDARY MARKER(kfMANCHU (kjMANCHU kaNIRUGUkaFREE VARIATION SELECTOR ONEçaTWO",
  "èaHREEkaVOWEL SEPARATOR!çaFOURkaDIGIT ZEROqaONEqaTWOraHREEqaFOURraIVEqaSIXraEVENqaEIGHT*qcNI",
  "~1820kaLETTER AraEraIraOraUraOErbUrbEraNAraANGraBArbPrbQrbGrbMrbLrbSsbHrbTrbDrbCHrbJrbYrbRrbWrbF",
  "rbKsbHrbTSrbZrbHArbZRrbLHraZHIrcCraTODO LONG VOWEL SIGNwaEwaIwaOwaUwaOEwbUwaANGwaBAwbPwbQwbGwbMwbT",
  "wbDwbCHwbJwbTSwbYwbWwbKwbGAwcHwbJIwcNwbDZraSIBE EwaIxaYwaUExawaANGwaKAwbGwbHwbPwbSHwbTwbDwbJwbF",
  "wbGAwcHwbTSwbZwbRAwbCHwcZraMANCHU IyaKAybRybFybZHraCHA WITH TWO DOTS~1880raALI GALI ANUSVARA ONE",
  "ßfVISARGßaDAMARUßaUBADAMAßhINVERTED ßbBALUDßgTHREE ßbßaIßaKAßbNGßbCßbTTábHßbDDßbNNßbTßbDßbPàbHßbSS",
  "ßbZHàbßaAH*rlTODO äbZHrcMANCHU ALI GALI GæbNGæbCæbJHæbTTæbDDHæbT!çcæbSSæbCYæbZHçb=ßaHALF UäaYA%æcB",
  "!ßbDAGALG!æcL~18B0aaCANADIAN SYLLABICS OYtbAubAtcWtbPOubAubWOtbTAtcKucWtcMtbNOubAtcLtbSOubAubHOvbA",
  "vbWOtcYubAtcRtaNWItdOJIBWAY !waI!ãaI!vaO!âaO!waO!ãaOtaRWEEvaIwaIvaOwaOvaA)àaPàaTàaKàaCàaMàaNàaSáaH",
  "taEASTERN WthWEtaFINAL SMALL RINGzaRAISED DOTtaR-CREE RWE%xa-CREE LOOãaAA$tcTHwaA!udTwaOOwaAA$udL",
  "waOO!tdSAYISI SáaOOßdtaCARRIER GWUàaDENE GEEàaGAAábW&ßaJUU!àcJtaBEAVER DENE LäaR)ãaTAL S",
  "~1900aaLIMBU VOWEL-CARRIER LETTERgaLETTER KAobHnbGobHnbNGnbCobHnbJobHnaYANnaTAobHnbDobHnbNnbPobH",
  "nbBobHnbMnbYnbRnbLnbWnbSHobSobnbHnaGYAN*ncT~1920gbVOWEL SIGN raIraUraEEraAIraOOraAUraEraO",
  "gaSUBJOINED LETTER YAxbRxbW~1930hbMALL LETTER KtbNGtbANUSVARtbTtbNtbPtbMtbRtbLhaIGN MUKPHRENGlgKEM",
  "laSA-I~1940laLOO~1944gaEXCLAMATION MARKgjQUESgaDIGIT ZEROmaONEmaTWOnaHREEmaFOURnaIVEmaSIXnaEVEN",
  "maEIGHT*mcNIaaTAI LE LETTER KAobXobNGobTSocobYobTpbHobLobPpbHobMobFobVobHobQobKHocTSobNoboaIoaEE",
  "paHoaUoaOOpaoaUEobobAUpaI~1970oaTONE-2ta3ta4ta5ta6~1980aaNEW TAI LUE LETTER HIGH QAtdLOW!ybKybX",
  "ybNG%xbKxbXxbNG%ybTSycybY%xbTSxcxbY(zbzbHybN(ybybHxbN%ybPzbHybM%xbPybHxbM%ybFybVybL%xbFxbVxbL.yc",
  "ybDybB.xcxbDxbB.ycKycX,xcKxcX$ybSUteLOW~19B0maVOWEL SIGN VOWEL SHORTENERxaAAxaIIxaUyaUxaExbAxaOyaA",
  "xaUExaAYybAxbUxbOybAxbUExbImaLETTER FINAL VzaNGßazaMzaKzaDzaBmaTONE MARK-1wa2~19D0maDIGIT ZERO",
  "saONEsaTWOtaHREEsaFOURtaIVEsaSIXtaEVENsaEIGHT*scNI+mjTHAM ~19DEmbSIGN LAuaV",
  "aaKHMER SYMBOL PATHAMASATnbMUOY KOEnfPIIngBEofUONnfPRAMrf-MUOYsfPIIsgBEtfUONnfDAP&nkDAPrfPIIrgBE",
  "sfUONrfPRAM>neTUTEY>saROCnePIInfBEoeUONnePRAM>xaROCsePIIsfBEteUONneDAP&njDAPrePIIrfBEseUONrePRAM",
  "aaBUGINESE LETTER KAqbGqcNsbKqbPqbBqbMrbPqbTqbDqbNrbRqbCqbJqbNYsbCqbYqbRqbLqbVqbSqbqbH",
  "jaVOWEL SIGN IuaUuaEuaOuaAE~1A1EjaPALLAWAjaEND OF SECTIONaaTAI THAM LETTER HIGH KAwbHwbX$qdLOWvbX",
  "vbHqbNG&vbCwbH%ubCubSubCHqbNYqbRAT(vcRATqbD!qgLOW%sbN%vbTwbH%ubTvbHqbNqbB&vbPwbHvbF(ubPubFubPHqbM",
  "!ubY(vbYqbRraUE%rbraUEqaWA;vcSwbSwbvbHqbLLqb=ucqaIraIqaUraUqaEEqaOO=rbA:qdGREAT",
  "jbCONSONANT SIGN MEDIAL RäbLyaLA TANG LAIjhSIGN MAI K$ybFINAL NGybLOW PygHIGH RATHA OR ybMybBybS",
  "~1A60)oaSAKOTjaVOWEL SIGN AuaMAI SATuaAAucTALL uaIvaIuaUEvbUvavaUuaOvaA BELOWvaYuaEubAuaOOuaAI",
  "ucTHAM )xaABOVEjaSIGN MAI KANGoaTONE-1ta2oaKHUEN TONE-3za4za5oaRA HAAM)saSAM$ta-LUE KARAN",
  "~1A7FjaCOMBINING CRYPTOGRAMMIC DOTjaHORA DIGIT ZEROuaONEuaTWOvaHREEuaFOURvaIVEuaSIXvaEVENuaEIGHT",
  "*ucNI~1A90,jlTHAMuaONEuaTWOvaHREEuaFOURvaIVEuaSIXvaEVENuaEIGHT*ucNI~1AA0jaSIGN WIANGtaWAAKoaSAWAN",
  "oaKEOWoaHOYoaDOKMAIoaREVERSED ROTATED RANAoaMAI YAMOK(ocKAsaKUU!oeSATvaKUU:odHodCA",
  "~1AB0aaCOMBINING DOUBLED CIRCUMFLEX ACCENTlaIAERESIS-RINGkaINFINITY$maWNWARDS ARROWkaTRIPLE DOT",
  "!kcX-X BELkgWIGGLY LINEkgOPEN MARKkpDOUBLE kgLIGHT CENTRALIZATION STROKEkáSTRONG",
  "kaPARENTHESES ABOVEkrDOUBLE !waBELOWwaOVERLAY(lgATIN SMALL LETTER WâhTURNED ",
  "laEFT PARENTHESIS ABOVE LEFTkbRIGHT PARENTHESIS ABOVE RIGH!àfBELOW!ágBELOW+khSQUARE BRACKET",
  "kgNUMBER SIGNkgINVERTED DOUBLE ARCH!klPLUSkpDOUBLE àaBELOWkaTRIPLE ACUTE ACCENT:âaINSULAR GêaRêaT",
  "~1B00aaBALINESE SIGN ULU RICEMsaCANDRAoaCECEKoaSURANGoaBISAH%jcLETTER AKAva TEDUNG!qeI!qlI!qeU!qlU",
  "qaRA REPAxa TEDUNGqaLA LENGAya TEDUNG(qeEqeAIqeO*qlOqaKAsa MAHAPRANAqbGsa GORA,qdqbCsa LACAqbJ",
  "sa JERAqbNYqaTA LATIK,qlTA MURDqgDA MURDA ALP!qrDqaNA RAMBAT%sa&tbTAWqbD&uaADU&saqbPsa KAPALqaBA",
  "sa KEMBANGqaMAqbYqbRqbLqbWqbSA SAGvbPsaqbHjaSIGN REREKAN.jcVOWEL SIGN TEDUuaULUxa SARIuaSUKU",
  "ya ILUTuaRA REPAàa TEDUNGuaLA LENGAáa TEDUNGucTALIßa REPAàaTEDUNGàgREPA uaPEPET!uhPEPETjbADEG ADE",
  "jaLETTER KAF SASAKrgHOTqgTZIRqgEFqgVEqgZALqgASYURAraRCHAIC JNYA~1B50jaDIGIT ZEROpaONEpaTWOqaHREE",
  "paFOURqaIVEpaSIXqaEVENpaEIGHT*pcNIjaPANTIlaMADAjaWINDUjaCARIK PAMUNGKAHpaSIKI!raREREN&maENENG",
  "jcMUSICAL SYMBOL DOzcEzcUzcAáa SURANGzcIzcAEzcEUzcAI&âaGEDEyaCOMBINING TEGEHçaENDEPçaKEMPULëaLI",
  "çaJEGOGANçhKEMPUL WITH ënLIçaBENDEçaGONGybRIGHT-HAND OPEN DUîbAèaCLOSED TUKðbA&ycLEFT-HAND OPEN PA",
  "ícUçaCLOSED PLAKðbU$ícIjcPANTI LANTAliMADA~1B80aaSUNDANESE SIGN PANYECEKsaGLAYARtaWISADkaLETTER A",
  "raIraUraAEraOraEsaUraKArbQrbGrcNrbCrbJrbZrbNYrbTrbDrbNrbPrbFrbVrbBrbMrbYrbRrbLrbWrbSrbXrbH",
  "kaCONSONANT SIGN PAMINGKALàaNYAKRAâaIKUkbVOWEL SIGN PANGHULybYUKyaAELAENGycOLOxaMEPET!ycEULEU",
  "kaSIGN PAMAAEHpaVIRAMA,àbSANGAN MçbW<rcKrbSYkaDIGIT ZEROqaONEqaTWOraHREEqaFOURraIVEqaSIXraEVEN",
  "qaEIGHT*qcNI:kcAVAGRA:raREUrcL=rcBraFINAL KxaMaaBATAK LETTER AnbSIMALUNGUN nbH!ybHndMANDAILINGnbB",
  "ncKARO nbP&ybPnbN(ybNnbW%ybWndPAKPAKnbG$ybGnbJnbDnbR%ybRnbM!ybMobOUTHERN TniNORnbS%ybS>ybSnbY$ybY",
  "nbNGnbL$ybLnbNYnbCnbNDnbMBnaInaUgaSIGN TOMPIgaVOWEL SIGN ErbPAKPAK rbEraIrbKARO raO!waOraU",
  "sa FOR SIMALUNGUN SAgaCONSONANT SIGN NGvaHgaPANGOLATjaONGONAN~1BFCgaSYMBOL BINDU NA METEK",
  "taPINARBORAStaJUDULtaPANGOLATaaLEPCHA LETTER KApbLpbHobGpbLobNGobCpbHobJobNYobTpbHobDobNobPpbLpbH",
  "obFpbLobBpbLobMpbLobTSqbHobDZobYobRobLobHpbLobVobSpbHobWob,hjSUBJOINED ybRhbVOWEL SIGN AsaIsaOtaO",
  "saUtaUsaEhaCONSONANT SIGN KwaMwaLwaNwaPwaRwaTwaNYIN-DOwaKANGhaSIGN RANmaNUKTA",
  "~1C3BhaPUNCTUATION TA-ROLtgNYET THYOOM taCER-WAtgTSHOOK zahaDIGIT ZEROnaONEnaTWOoaHREEnaFOURoaIVE",
  "naSIXoaEVENnaEIGHT*ncNI~1C4D>hcLETTER TqbHobDD;alOL CHIKIpaONEpaTWOqaHREEpaFOURqaIVEpaSIXqaEVEN",
  "paEIGHT*pcNIjaLETTER LAqaATraGrbNraL&saAqaAAKsaJsaMsaWqaLIqaISraHraNYraRqaLUqaUCraDraNNraYqaLEqaEP",
  "raDDraNraRRqaLOqaOTTraBraVraHjaMU TTUDDAGjcGAAHLAA TTUDDAjqMU-jaRELAAjcPHAARKjaAHAD",
  "jcPUNCTUATION MUCAvgDOUBLE aaCYRILLIC SMALL LETTER ROUNDED VEwbLONG-LEGGED DwaNARROW OwaWIDE ES",
  "waTALL TExdHREE-LEGGED!àaHARD SIGNàaYATwaUNBLENDED UK~1C90aaGEORGIAN MTAVRULI CAPITAL LETTER ANæcB",
  "æcGæbDOæbEæbVIæbZEæbTAæbIæbKAæaLAS!æcMæaNAR,æc!æcPæcZHæaRAE(æcS$æcTæaUN&ædPædK&æcGH!æcQ)çbHIædCçbA",
  "æaJILæcC*ædC%æcXæcJH>æcHçbçbIæbW)ædçaOEæaFIæaYN!æcELI,æcTURNED GæbAI~1CBDçbE*éaD SIGNæfLABIAL",
  "aaSUNDANESE PUNCTUATION BINDU SURYAáaPANGLONGâaURNAMAábCAKRábLEU SATANGáiKAájDájB",
  "~1CD0abVEDIC TONE KARSHANlbSHARlbPRENKHgbSIGN NIHSHVASlbYAJURVEDIC MIDLINE SVARIT",
  "giTONE YAJURVEDIC AGGRAVATED INDEPENDENTwtwtKATHAKA laCANDRA BELOW!öa SCHROEDER$liDOUBLElkTRIP",
  "lcKATHAKA ANUDAT&lgDOTlgTWO DOTSmlHREE+luRIGVEDIC KASHMIRI.lzATHARVA<liVISARGAtcUDATloREVERSED ",
  "!tgAN!ágAN%za WITH TAILtqANlaANUSVARA ANTARGOMUKHAuiBAHIuhVAMAäa WITH TAILlaTIRYAK",
  "laHEXIFORM LONG ANUSVARAlnlnRTHANG (ufUBHAYATO mbRDHAVISARGlmROTATED gaTONE CANDRA ABOVE",
  "!lbJIHVAMULIYldUPADHMANlbATIKRAM%lgRINGlkDOUBLE >liDOUBLE ANUSVARA ANTA",
  "~1D00abLATIN LETTER SMALL CAPITAL áaEgdSMALL LETTER TURNED!àaBARRED BàaCàaDàaETHáa(ßbOPEN ßaI$àaJ",
  "àaKàaL WITH STROKEàaMàaREVERSED NàaOáaPEN O*taSIDEWAYS OâaPEN Oâa WITH STROKE:àb&áaU%tcTOP HALF",
  "thBOTTOM$àaP.éaRàeTURNáaàaU,áaUábDIAERESIZED áaTURNED M%àaVàaWàaZàaEZHnaVOICED LARYNGEAL SPIRANT",
  "naAINaaGREEK LETTER SMALL CAPITAL GAMMAàbLAMDàaPIàaRHO!ábSaaCYRILLIC LETTER SMALL CAPITAL EL",
  "aaMODIFIER LETTER CAPITAL AzaEyaBzaARRED ByaDyaEybREVERSED yaGyaHyaIyaJyaKyaLyaMyaN+æaNyaOzaUyaP",
  "yaRyaTyaUyaWqaSMALL AwbTURNED wbALPH!ãaEwaBwaDwaEwaSCHWAwaOPEN EwgTURNED waG!âaIwaKwaMwaENGwaO*àaO",
  "wcTOP HALFwhBOTTOMwaPwaTwaUwbSIDEWAYS :âaMwaVwaAINwaBETAwbGREEK GAMMwbDELT!áaPHIwcC",
  "abLATIN SUBSCRIPT SMALL LETTER âaRâaUâaV+afGREEK SUBSCRIPT SMALL LETTERâbGAMMâaRHOâaPHIâcC",
  "(haMALL LETTER UEtbB WITH MIDDLE TILDtsDtsFtsMtsNtsPtsRßmFISHHOOK AND !tsStsTtsZtaTURNED G",
  "aaMODIFIER LETTER CYRILLIC EN!tcINSULARtaTH WITH STRIKETHROUGHmaCAPITAL LETTER I WITH STROKE",
  "mmLETTER IOTAtmP$àmU!tmUPSILONtaB WITH PALATAL HOOKtsDtsFtsGtsKtsLtsMtsNtsPtsRtsStsESHtsVtsXtsZ",
  "tfA WITH RETROFLEXuuLPHA>ßaHOOK AND TAIL!tuEtvOPEN tßREVERSED tuSCHWAtuI%yuOtuESHtuU!uvZ",
  "aaMODIFIER LETTER SMALL TURNED ALPHAwaCxa WITH CURLwaETHwaREVERSED OPEN EwaF",
  "waDOTLESS J WITH STROKEwaSCRIPT G*âaH$wmIxaOTAwaCAPITAL I$wnCAPITAL waJ WITH CROSSED-TAIL",
  "waL WITH RETROFLEX HOOKâfPALATAL%ãaL!wfM WITH,âaM WITH LONG LEG!wfN WITH LEFT(wuN&ãaNwaBARRED O",
  "waPHI)wkSwaESH.wsTwaU BARxaPSILON*ãaU(wkV;âaVwaZ;wuZâaCURL,xbZwaTHETA",
  "aaCOMBINING DOTTED GRAVE ACCENTriACUTkaSNAKE BELOWlaUSPENSION MARKkaMACRON-ACUTEkaGRAVE-MACRON",
  "!rbGRAV!kiACUT!kgGRAVE-ACUTE!qaGRAVE-ACUTE*kgLATIN SMALL LETTER R(kjBRE(rcBRE",
  "kcDOUBLE CIRCUMFLEX ABOkgOGONEK&kgZIGZAGkgIS$kgURlgS+âaFLATTENED OPEN A ABOVEâbAãaOãaVâaC CEDILLA",
  "âaINSULAR DâaETHâaGqcLETTER SMALL CAPITAL!âaKâaL$êaLêaM$âaN!êaNêaR:âbR ROTUNDâaSâbLONG âaZâaALPHA",
  "âaBãaETAâbSCHWâaFâaL WITH DOUBLE MIDDLE TILDEâbO WITH LIGHT CENTRALIZATION STROKâaPâaESH$âæUâaW",
  "âaA WITH DIAERESISâpOâpUkaUP TACK ABOVEkaKAVYKA ABOVE RIGHTxbLEFklDOTkaWIDE INVERTED BRIDGE BELOW",
  "!ofBELOWlaELETION MARK$khDOUBLE INVERTED BREVkgALMOST EQUAL TO+kgLEFT ARROWHEAD",
  "!kgRIGHT ARROWHEAD AND DOWN ARROWHEADagLATIN CAPITAL LETTER A WITH RINGgßSMAL!vaB WITH DOT ABOVE",
  "gzSMAL!åaBELOWgzSMAL!ágLINEgßSMAL(vbC WITH CEDILLA AND ACUTgæSMAL*vpD*tpD*vpD*tpD*vqD*tqD",
  "!áaCEDILLAgxSMAL%ágCIRCUMFLEXgåSMAL,vcE WITH MACRON AND GRAgåSMAL!ìbACUTgåSMAL(vwE(twE!ágTILDE",
  "gàSMAL*ácCEDILLA AND BREgæSMAL!vcF WITH DOT ABOgzSMAL!vaG WITH MACRONgwSMAL%vpH%tpH!åaBELOWgzSMAL",
  "!âaIAERESISgzSMAL!áaCEDILLAgxSMAL(ágBREVEgàSMAL!vhI WITH TILDgàSMAL!áaDIAERESIS AND ACUTEgèSMAL",
  "!vgK WITHgvSMAL<vpK<tpK!ágLINEgßSMAL%vpL%tpL!êa AND MACRONgéSMAL(vqL(tqL!ágCIRCUMFLEXgåSMAL<vlM",
  "<tlM!ábDOT ABOVgzSMAL:vpM:tpM%vpN%tpN%vpN%tpN<vqN<tqN<vwN<twN<vgO WITH TILDE ANDgäSMAL!ëaDIAERESIS",
  "gèSMAL%ábMACRON AND GRAVgåSMAL!ìbACUTgåSMAL!vgP WITHgvSMAL!ábDOT ABOVgzSMAL!vpR!tpR!åaBELOWgzSMAL",
  "!êa AND MACRONgéSMAL%ágLINEgßSMAL*vpS*tpS*vpS*tpS%ájACUTE AND gèSMAL!áoCARONgèSMAL!áoDOT BELOW",
  "gìSMAL,vpT,tpT,vpT,tpT>vqT>tqT!ágCIRCUMFLEXgåSMAL!vgU WITH DIAERESISgäSMAL!ágTILDEgàSMAL(vwU(twU",
  "%çaAND ACUTEgäSMAL!áaMACRON AND DIAERESISgéSMAL%vbV WITH TILDgvSMAL!áaDOT BELOWgzSMAL",
  "%vbW WITH GRAVgvSMAL!ábACUTgvSMAL,vkW WITHgzSMAL(ácDOT ABOgzSMAL,vpW,tpW%vpX%tpX*vpX*tpX%vpY%tpY",
  "!vaZ WITH CIRCUMFLEXgßSMAL,vpZ,tpZ!ágLINEgßSMALtqH,tpT+tgW WITH RINGtqYtaA WITH RIGHT HALF RING",
  ":tpLONG SåbIAGONAL STROKähHIGH,vaSHARP S!taDELTA<vpA<tpA!áaHOOK ABOVEgßSMAL!ábCIRCUMFLEX AND ACUT",
  "géSMAL!ðbGRAVgéSMAL!ðcHOOK ABOgîSMAL!ðbTILDgéSMAL!ðaDOT BELOWgíSMAL,ákBREVEgäSMAL!ëbGRAVgäSMAL",
  ",ápBREVEgéSMAL!ëbTILDgäSMAL,áoBREVEgèSMAL!vkE WITHgzSMAL*vlE WITHgßSMAL!ábTILDgvSMAL",
  ">vkE WITH CIRCUMFLEXgéSMAL!ðbGRAVgéSMAL!ðcHOOK ABOgîSMAL!ðbTILDgéSMAL!ðaDOT BELOWgíSMAL<vqI<tqI",
  "%vkI WITHgzSMAL!vpO!tpO(vqO(tqO!ábCIRCUMFLEX AND ACUTgéSMAL!ðbGRAVgéSMAL!ðcHOOK ABOgîSMAL!ðbTILD",
  "géSMAL!ðaDOT BELOWgíSMAL,ákHORNgãSMAL!êbGRAVgãSMAL,ápHORNgèSMAL!êbTILDgãSMAL,áoHORNgçSMAL!vkU WITH",
  "gzSMAL*vlU WITHgßSMAL<vuU<tuU<vuU<tuU<vzU<tzU<vuU<tuU<vyU<tyU*vgY WITHgvSMAL>vpY>tpY>vqY>tqY",
  "!ábTILDgvSMAL!vaMIDDLE-WELSH LLgySMAL!çaV!åaV(áaLOOPguSMALaaGREEK SMALL LETTER ALPHA WITH PSILI",
  "ãaDASIA!èa AND VARIAãkDASIA!ícOX!ícOX!íaPERISPOMENIãqDASIA*gzCAPITAåaDASIA*gèCAPITAåkDASIA!ïcOX",
  "!ïcOX*gîCAPITAåqDASIA>tlEPSILONåaDASIA>tvEPSILONåkDASIA!ïcOX!ïcOX~1F18(gàCAPITAçaDASIA(gêCAPITA",
  "çkDASIA!ñcOX!ñcOX~1F20:ulTA:ulTA:uvTA:uvTA:uuTA:uuTA!ëaPERISPOMENIáqDASIA<wlTA<wlTA<wvTA<wvTA<wuTA",
  "<wuTA*gìCAPITAãqDASIA>tnIO>tnIO>txIO>txIO>twIO>twIO>tâIO>tâIO>vnIO>vnIO>vxIO>vxIO>vwIO>vwIO>vâIO",
  ">vâIO>tlOMICRONåaDASIA>tvOMICRONåkDASIA!ïcOX!ïcOX~1F48(gàCAPITAçaDASIA(gêCAPITAçkDASIA!ñcOX!ñcOX",
  "~1F50:tnUPSILåaDASIA:txUPSILåkDASIA!ïcOX!ïcOX!ïaPERISPOMENIåqDASIA~1F59;vnUPSIL~1F5B:vxUPSIL",
  "~1F5DñcOX~1F5F%gðCAPITA:tlOMEGAãaDASIA:tvOMEGAãkDASIA!ícOX!ícOX:tàOMEGAãqDASIA*gzCAPITAåaDASIA",
  "*gèCAPITAåkDASIA!ïcOX!ïcOX*gîCAPITAåqDASIA;tgALPHA WITHãcOX!tlEPSILONåcOX!ulTAácOX!tnIOâcOX",
  "(tnOMICRåcOX*trU*tqU%vlEGAãcOX~1F80;ãaPSILI AND YPOGEGRAMMENIãsDASIA!ínVARIA AND ãáDASIA!íuOX!íuOX",
  "!ísPERISPOMENIãçDASIAgkCAPITAL LETTER ALPHA WITH PSILI AND PROSåtDASIA!ïoVARIA AND åâDASIA!ïvOX",
  "!ïvOX!ïtPERISPOMENIåèDASIA>tãET>tãET>tíET>tíET!ëuOX!ëuOX>tóET>tóET>väET>väET>vîET>vîET!ívOX!ívOX",
  ">vôET>vôET>tãOMEGãsDASIA>tíOMEG>tíOMEG!íuOX!íuOX>tóOMEG>tóOMEG>väOMEGåtDASIA>vîOMEG>vîOMEG!ïvOX",
  "!ïvOX>vôOMEG>vôOMEG+taALPHA WITH VRACHYãaMACRON=tyALPHA WITHãn!ãuOX~1FB6ãePERISPO=tãALPHA WITH",
  ")gßCAPITAåaMACRONåaVARIAåcOX:vpALPHA WITHgaKORONIS!gohbSIL,glglDIALYTIKA AND =tãETán!áuOX",
  "~1FC6=tsET=téET;vlEPSILONçcOX!wlTAãcOX=vvET$ggPSILI ANDqcOX;gqPSILI+taIOTA WITH VRACHYâaMACRON",
  "âaDIALYTIKA AND VARIAðcOX~1FD6<ttIO!ðaPERISPOMENI(gzCAPITAäaMACRON<vnIOäcOX~1FDD*glDASIqcOX)grDASI",
  ";tmUPSILONåaMACRON;tzUPSILONócOXtaRHO WITH PSILIáaDASIA=trUPSILON=täUPSILON*gáCAPITAçaMACRON",
  "çaVARIAçcOX)gxCAPITA.gt.gs!gf~1FF2+teOMEGA WITH VARIA AND YPOGEGRAMãn!ãuOX~1FF6;trOMEGA",
  "!ãsPERISPOMENI.vnOMICRçcOX!xlEGAåcOXåaPROSGEGRAMMENI!ge=gf"]

end Conductor.CharName
