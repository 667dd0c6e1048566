/-! The names of letters and signs of the alphabets in use from Europe to India and Tibet. -/

namespace Conductor.CharName

def alphabets : List String := [
  "~20aaSPACEaaEXCLAMATION MARKakQUOTaaNUMBER SIGNagDOLLAafPERCENTaaAMPERSANDbaPOSTROPHE",
  "aaLEFT PARENTHESISanRIGHaaASTERISK(bfLUSaaCOMMAaaHYPHEN-MINUSaaFULL STOP!acSOLIDaaDIGIT ZEROgaONE",
  "gaTWOhaHREEgaFOURhaIVEgaSIXhaEVENgaEIGHT*gcNI<caLONafSEMIabLESS-THAN SIGafEQUALS!akGREATER",
  "aaQUESTION MARK(caMMERCIAL ATaaLATIN CAPITAL LETTER AvaBvaCvaDvaEvaFvaGvaHvaIvaJvaKvaLvaMvaNvaOvaP",
  "vaQvaRvaSvaTvaUvaVvaWvaXvaYvaZbaEFT SQUARE BRACKETaaREVERSE SOLIDUS!aqRIGHabCIRCUMFLEX ACCEN",
  "aaLOW LINE!ahGRAVE)gaSMALL LETTER AtaBtaCtaDtaEtaFtaGtaHtaItaJtaKtaLtaMtaNtaOtaPtaQtaRtaStaTtaUtaV",
  "taWtaXtaYtaZbaEFT CURLY BRACKETaaVERTICAL LINE!apRIGHaaTILDE~A0abNO-BREAK SPAC",
  "aaINVERTED EXCLAMATION MARKaaCENT SIGNafPOUNDafCURRENCYafYENaaBROKEN BAR!agSECTIOaaDIAERESIS",
  ")bgOPYRIGHaaFEMININE ORDINAL INDICATOR,akLEFT-POINTING DOUBLE ANGLE QUOT$agNOabSOFT HYPHE",
  ".agREGISTEREabMACRO!afDEGREEafPLUS-MINUSaaSUPERSCRIPT TWOnaHREEaaACUTE ACCENT%afMICROafPILCROW",
  "!caDDLE DOTaaCEDILLA(mbON>avMASCUL>aëRIGHaaVULGAR FRACTION ONE QUARTERuaHALFqaTHREE QUARTERS",
  "%ajINVERTED QUESaaLATIN CAPITAL LETTER A WITH GRAVEábACUTáaCIRCUMFLEXáaTILDEáaDIAERESIS&ácRING ABO",
  "wbvaC WITH CEDILLA*vlE*vlE*vqE)vpE%vlI%vlI%vqI%vpIvaETH<vlN(vlO(vlO(vqO%vlO)vpO",
  "aaMULTIPLICATION SIGN$ábSTROK)vlU)vlU)vqU(vpU$vlYvaTHORNgaSMALL LETTER SHARP StaA WITH GRAVEßbACUT",
  "ßaCIRCUMFLEXßaTILDEßaDIAERESIS&ßcRING ABOubtaC WITH CEDILLA*tlE*tlE*tqE)tpE%tlI%tlI%tqI%tpItaETH",
  "<tlN(tlO(tlO(tqO%tlO)tpOaaDIVISION SIGN$ßbSTROK)tlU)tlU)tqU(tpU$tlYtaTHORN$tpY",
  "gaCAPITAL LETTER A WITH MACRONgwSMAL!áaBREVEgvSMAL!áaOGONEKgwSMAL%vbC WITH ACUT,tlC!áaCIRCUMFLEX",
  "<tqC%ábDOT ABOVgzSMAL%âaARONgvSMAL!vlD!tlD!áaSTROKEgwSMAL%vdE WITH MACgwSMAL!áaBREVEgvSMAL:vpE:tpE",
  "!áaOGONEKgwSMAL:vlE:tlE!vaG WITH CIRCUMFLEXgßSMAL,vlG,tlG,vpG,tpG(âaEDILLAgxSMAL*vqH*tqH!áaSTROKE",
  "gwSMAL!vbI WITH TILDgvSMAL!áaMACRONgwSMAL<vlI<tlI!áaOGONEKgwSMAL>vpI!taDOTLESS I!paIGATURE IJ",
  "gnSMAL>vqJ>tqJ!vaK WITH CEDILLAgxSMALubR+vbL WITH ACUTgvSMAL&vnL&tnL!âaARONgvSMAL!áaMIDDLE DOT",
  "gßSMAL*ábSTROKgwSMAL,vlN,tlN,vnN,tnN,vlN,tlNvaPRECEDED BY APOSTROPHE$vaENGgmSMAL&vdO WITH MAC",
  "gwSMAL!áaBREVEgvSMAL!ábDOUBLE ACUTgáSMAL!pbIGATURE OgnSMAL%vgR WITHgvSMAL!áaCEDILLAgxSMAL!âaARON",
  "gvSMAL(vlS(tlS!áaCIRCUMFLEXgßSMAL*vnS*tnS*vlS*tlS%vnT%tnT%vlT%tlT!áaSTROKEgwSMAL!vbU WITH TILD",
  "gvSMAL!áaMACRONgwSMAL%ábBREVgvSMAL!ácRING ABOgßSMAL!ábDOUBLE ACUTgáSMAL!áaOGONEKgwSMAL",
  "!vaW WITH CIRCUMFLEXgßSMAL!vqY!tqY!áaDIAERESIS+vgZ WITHgvSMAL!ábDOT ABOVgzSMAL!áaCARONgvSMAL",
  "taLONG StaB WITH STROKE=vbB WITH HOOáaTOPBARgwSMAL<vbTONE SIgrSMAL!vaOPEN O(vkCguSMAL!vaAFRICAN D",
  "$vkD+vmD+tmDtaTURNED DELTA$vaREVERSED EvaSCHWA,ßaE)vkF,tkF!vkGwaAMMA$taHV!vbIOTwa WITH STROKE&vkK",
  ")tkK<tdL WITH uaAMBDA WITH STROKE%vaTURNED M&vfN WITH LEFT$taN WITH LONG RIGHT LEG",
  "=wb WITH MIDDLE TILDáaHORNguSMAL!waI!uaI:vkP:tkPgaLETTER YR.waONE TWOgrSMAL!vaESH",
  "%naREVERSED ESH LOOP(tfT WITH PALATAL*vkT!ße!áeRETROFLEX =vkU=tkU!wbPSILO(vkVvkY)tkY",
  "!vaZ WITH STROKEgwSMAL<wbZya REVERSEDgvSMALxaWITH TAIL&gmLETTER TWO)vbTONE FIVgsSMAL",
  "$nmINVERTED GLOTTAL STOPnaWYNNnaDENTAL CLICKniLATERngALVEOLARngRETROFLEX*vaDZ WITH CARON",
  "wm WITH SMALL LETTER !gwSMAL!vaLJwb WITH SMALL LETTER $taLJ!vbN$vuN$tbN*vlA*tlA!vlI!tlI!vlO!tlO",
  "!vlU!tlU!ádDIAERESIS AND MACgéSMAL!ïaACUTEgèSMAL%ïdCA%ídCA%ïbGRAVgèSMALtbTURNED +vßA+tßA",
  "!âlOT ABOVEgéSMAL!whE WITHgxSMAL+vbG WITH STROKgwSMAL!áaCARONgvSMAL!vlK!tlK!vaO WITH OGONEKgwSMAL",
  "!ça AND MACRONgæSMAL(vlEZHgxSMALtlJ$vaDZwb WITH SMALL LETTER $taDZ>ábACUTgvSMAL!vaHWAIRvaWYNN",
  "vaN WITH GRAVEgvSMAL(vgA WITH RING ABOVE ANDgéSMAL*vlAE*tlAE%vlO WITH STROKgåSMAL(ábDOUBLE GRAV",
  "gáSMAL!ácINVERTED BREgãSMAL%vsE%tsE%vuE%tuE%vsI%tsI%vuI%tuI%vsO%tsO%vuO%tuO%vsR%tsR%vuR%tuR%vsU",
  "%tsU%vuU%tuU!vaS WITH COMMA BELOWgàSMAL!vrT!trT!vaYOGHgnSMAL!vaH WITH CARONgvSMAL",
  "!vaN WITH LONG RIGHT LEG!taD WITH CURL!vaOU!taOU!vaZ WITH HOOKguSMAL>vcA WITH DOT ABOgzSMAL",
  "!vaE WITH CEDILLAgxSMAL:vdO WITH DIAERESIS AND MACgéSMAL!álTILDEgåSMAL*vpO*tpO%ámDOT ABOVgéSMAL",
  "!vhY WITHgwSMALtaL WITH CURLtkNtkTtaDOTLESS JuaB DIGRAPHtiQP:vbA WITH STROKvmCgwSMAL!vaL WITH BAR",
  "$vhT WITH DIAGONAL+tbS WITH SWASH TAItqZ$vaGLOTTAL STOPgvSMAL*vmB)veUvaTURNED V$vmE.tmE!vmJ!tmJ",
  "!vaSMALL Q WITH HOOK TAILgrSMALL LETTER%vmR%tmR!vmY!tmYtaTURNED AtbALPH!àaLPHAtaB WITH HOOK",
  "taOPEN OtaC WITH CURL.tfD WITH%tkD.ubEVERSED taSCHWA$tkSCHWA)yaE%ábOPEN ça WITH HOOK!tpCLOSED ",
  ">tmDOTLESS J$tkG)vaRIPT GgcLETTER SMALL CAPITAL$uaAMMAtaRAMS HORNtaTURNED H(tkHukENG+tmIuaOTA*àaI",
  "$tbL WITH MIDDLE TILDßaBELTßaRETROFLEX HOOKuaEZH,ßaMàa WITH LONG LEG,tkMtfN WITH LEFT(tuN,àaN",
  "!taBARRED O!àaOE<tbCLOSED OMEGtaPHI+ßaR,ßoRæaHOOK!tpßaTAILßaFISHHOOKuoEVERSED R,àaRàbINVERTED )tkS",
  "taESH!tfDOTLESS J WITH STROKE AND!tdSQUAT REVERSED $wa WITH CURL:ßaT;uf WITH RETROFLEXtaU BAR",
  "uaPSILON+tkV&ßaVßaWßaY<àaY*tuZ.tkZ=ubZ;ulZ&naGLOTTAL STOPnaPHARYNGEAL VOICED FRICATIVE!nmINVERTED ",
  "naSTRETCHED CnaBILABIAL CLICK,àaB)taCLOSED OPEN E!àaG WITH HOOKàaH,tbJ WITH CROSSED-TAI>ßaK$àaL",
  ">tfQ WITH;za WITH STROKEnyREVERSED $taDZ DIGRAPHuiEZH!âa WITH CURL!tiTSuiESH$tsTC!tiFENGtiLSuiZ",
  ",nbBILABIAL PERCUSSIVpnDENT>ßbH WITH FISHHOOîa AND TAILaaMODIFIER LETTER SMALL Hxa WITH HOOKwaJwaR",
  "wbTURNED %wkTURNED R!weCAPITAL INVERTwaWwaYqaPRIMEqfDOUBLE qaTURNED COMMAqaAPOSTROPHE!qiREVERS",
  "raIGHT HALF RINGqlLEFqaGLOTTAL STOPqmREVERSED $vaARROWHEADqlRIGHqkUPqkDOWNqaCIRCUMFLEX ACCENT",
  "aaCARON:qbVERTICAL LINqaMACRON%qhACUTEqiGRAV%qnLOW %qgLOW $qmLOW uiACUT$qcTRIANGULAR COLqqHALF ",
  "qaCENTRED RIGHT HALF RINGylLEF>taTACKqfDOWNqaPLUS SIGNqhMINaaBREVEacDOT ABOagRINGaaOGONEK",
  "aaSMALL TILDE<anDOUBLE+qbRHOTIC HOO>qhCROSSqaSMALL GAMMAwaLwaSwaXwaREVERSED GLOTTAL STOP",
  "qaEXTRA-HIGH TONE BARqnqjMIDqjLOW%wjLOWqaYIN DEPARTING TONE MARKruANGqaVOICINGqaUNASPIRATED",
  "qaDOUBLE APOSTROPHE)uaDOWN ARROWHEADukUPukLEFTulRIGHwaNG;taDLE GRAVE ACCENTxmDOUBLE ãiACUT=vaILDE",
  "qaRAISED COLONqaBEGIN HIGH TONEqkEND!wfLOWqjENDqaSHELFqfOPEN <ãa.anCOMBININGkiACUTkhCIRCUMFLEX",
  "kaTILDEkaMACRONkaOVERLINEkbBREVkcDOT ABOlaIAERESIS!kgHOOKkgRING,kmDOUBLE *kdCA$kgVERTICAL LINE",
  "ktDOUBLE %riGRAV%maNDRABINDU.kfINVERTED %kgTURNED COMMAkl!koREVERS!va RIGHTkaGRAVE ACCENT BELOW",
  "koACUTkgLEFT TACKkmRIGH:khLEFT ANGLkaHORN%pgHALF RING%klUPklDOWNkgPLUS SIGNknMINkgPALATALIZED HOOK",
  "klRETROFLEX&mgTlgIAERESIS+kkkgCOMMAlaEDILLAkaOGONEK$kgVERTICAL LINEkhBRIDGkgINVERTED DOUBLE ARCH",
  "kgCARONlgIRCUMFLEX ACCENT%mhEV%tgBREVEkhTILD&kjMACkaLOW LINEkiDOUBLE %qaOVERLAYkjSHORT STROKkpLONG",
  "!riOLIDUSkqLONG*kgRIGHT HALF RING.vhIDGkhSQUARlgEAGULLkaX ABOVEkbVERTICAL TILD:reOVER",
  "kaGRAVE TONE MARKklACUT!maEEK PERISPOMENIqaKORONISqbDIALYTIKA TONO$qeYPOGEGRAM+kgBRIDGE",
  ".kgEQUALS SIGNkgDOUBLE VERTICAL LINEkhLEFT ANGL%khNOT TILDkgHOMOTHETICkgALMOST EQUAL TO",
  "%pgRIGHT ARROWkmUPWARDS=naPHEME JOINER%kgRIGHT ARROWHEADkgLEFT HALF RINGkaFERMATA&kgX.qgRROWHEAD",
  "krRIGHßfAND UP ARROWHEAD (krRIGH>maT ABOVE RIGHT$kgASTERISKkgDOUBLE RING%khZIGZA!rgBREVEwaraMACRON",
  "xa BELOWraTILDE%rfINVERTED *tgGHTWARDS ARROWkaLATIN SMALL LETTER AâaEâaIâaOâaUâaCâaDâaHâaMâaRâaT",
  "âaVâaXaaGREEK CAPITAL LETTER HETAgnSMAL!vaARCHAIC SAMPIgwSMALgaNUMERAL SIGNgmLOWER ",
  "(vbPAMPHYLIAN DIGAMMgàSMAL~37AgaYPOGEGRAMMENI!maREVERSED LUNATE SIGMA SYMBOLmwDOTT!vtDOTTED ",
  "gaQUESTION MARK)vaYOT~384gaTONOSgfDIALYTIKA <waLPHA WITH TONOSgaANO TELEIA!vlEPSILONwlTAvnIO",
  "~38C$vnOMICR~38E%vrU!xlEGAggSMALL LETTER IOTA WITH DIALYTIKA AND+ßavbBETvbGAMMvbDELT.áa%vdZvdvdTH",
  ";zavbKAPPvbLAMDvaMUvbNvaXI,vcOMICRvaPIvaRHO~3A3=vcSIGvaTAU=vgU&wbHvcCvbPS+xaEGA>za WITH DIALYTIKA",
  "vpUPSILONgaSMALL LETTER ALPHA WITH TONOStlEPSILONulTAtnIOtgUPSILON WITH DIALYTIKA AND&yatbBET",
  "tbGAMMtbDELT*ßa%tdZtdtdTH,xatbKAPPtbLAMDtaMUtbNtaXI,tcOMICRtaPItaRHO=tcFINAL SIGtftaTAU>tgU(ubHtcC",
  "tbPS,vaEGAtbIOTA WITH DIALYTIKtpUPSILON;ßa WITH TONOStnUPSIL!vlEGAgaCAPITAL KAI SYMBOLghBETAgkTH",
  "ghUPSILON WITH HOOKtlACUTE AND tqDIAERESISghPHIhi*gkgaLETTER ARCHAIC KOPPAguSMALL !nbSTIGMgnSMALL ",
  "!ncDIGAMgoSMALL (nf(tf(oaAMPI(uaAMPIabCOPTIC CAPITAL LETTER SHEhnSMAL!wcF!ucF%wdK%udK!wbHORhnSMAL",
  "!waGANGIAhpSMAL,yaIMAhoSMAL*wcD*ucD=gaKAPPA SYMBOLghRHOghLUNATE SIGMAhaETTER YOT!giCAPITAL THET",
  "$nhEPSILONgvREVERSED $oaLETTER SHOgmSMAL)gtCAPITAL $waAN$uaAN.kgWITH STROKE %otREVERSED owDOTT",
  "!xtDOTTED aaCYRILLIC CAPITAL LETTER IE WITH GRAVEzaOyaDJEycGybUKRAINIAN IybDZ",
  "yaBYELORUSSIAN-UKRAINIAN IybY&ycycLycNybTSHybKJ;zlyaSHORT U%ycDZyaAyaBEybVybGHybDybI)ydzbyaI.ãaI",
  "yaKAyaELzaMzaNyaOyaPEyaERzaSyaTEyaUyaEFyaHA%zbSybCH$ycSßbCHyaHARD SIGNyaYERU!yfSOFTyaE$zbzaA",
  "jbSMALL LETTER waBEwbVwbGHwbDwbIwbZHxbwaIwbSHORT waKAwaELxaMxaNwaOwaPEwaERxaSwaTEwaUwaEFwaHA%xbS",
  "wbCH$wcSybCH&yaRD SIGNwaYERU!wfSOFTwaE$xbxaAwaIE WITH GRAVExaOwaDJEwcGwbUKRAINIAN IwbDZ",
  "waBYELORUSSIAN-UKRAINIAN IwbY&wcwcLwcNwbTSHwbKJ;xlwaSHORT U,ybHjaCAPITAL LETTER OMEGAjoSMAL!yaYAT",
  ":xaAT!yaIOTIFIED EjtSMAL!yaLITTLE YUSjtSMAL!ykIOTIFIED jáSMAL!yeBIGjqSMAL%æeBIGjzSMAL!yaKSIjmSMAL",
  "!ycP!wcP!yaFITAjnSMAL!ybIZHITSjqSMAL!äa WITH DOUBLE GRAVE ACCENTjîSMAL!yaUK!waUK(ybROUND OMEG",
  "juSMAL!yaOMEGA WITH TITLOjzSMAL!zaT!xaT(ybKOPPjoSMALjaTHOUSANDS SIGN(bgOMBINING CYRILLIC",
  "taPALATALIZATIONtaDASIA PNEUMATAtjPSILIuaOKRYTIEtaHUNDRED THOUSANDS SIGNtgMILLION",
  ",yaSHORT I WITH TAILjßSMAL!zaEMISOFT SIGNjwSMAL!yaER WITH TICKjvSMAL%ybGHE WITH UPTURjySMAL",
  "!æaSTROKEjySMAL!æaMIDDLE HOOKjâSMAL!yaZHE WITH DESCENDERjàSMAL!zq!xq!ypKA!wpKA!åaVERTICAL STROKE",
  "jåSMAL!åg!ãg!yaBASHKIR KAjtSMAL*ypEN*wpEN(sbIGATURE EN GHjrSMAL%yaPE WITH MIDDLE HOOKjáSMAL",
  "*ybABKHASIAN HjvSMAL*zpS*xpS!ypTE!wpTE!yaSTRAIGHT UjtSMAL!ça WITH STROKEjäSMAL(ypHA(wpHA>ßbTE TS",
  "jrSMAL,yqCH,wqCH!æaVERTICAL STROKEjæSMAL,zaHHAjnSMAL%ybABKHASIAN CHjwSMAL*ysABKHASIAN jêSMAL",
  "jaLETTER PALOCHKA&ybZHE WITH BREVjxSMAL!yaKA WITH HOOKjvSMAL!yaEL WITH TAILjvSMAL%ykEN%wkEN%zkN",
  "%xkN=yiKHAKASjxSMAL%zkM%xkM=jpSMALL =ylA=wlA!äaDIAERESISjzSMAL%sbIGATURE A IjpSMAL(ylIE(wlIE",
  "!yaSCHWAjoSMAL*yqSCHWjâSMAL!ypZHE!wpZHE!zq!xq>zbBKHASIAN DZjwSMAL:za WITH MACRONjwSMAL(ypI(wpI!ypO",
  "!wpO!yaBARRED OjrSMAL%yqBARRED jåSMAL<yq<wq:ymU:wmU%ypU%wpU!åaOUBLE ACUTEjáSMAL*yqCH*wqCH",
  "!yaGHE WITH DESCENDERjàSMAL*yqYER*wqYER%æaSTROKE AND HOOKjæSMAL!yfHA WITHjvSMAL!åaSTROKEjxSMAL",
  "!ybKOMI DjqSMAL!ãbJ!ábJ!âcZ!àcZ!âdD!àdD!âcL!àcL!âcN!àcN!âcS!àcS!âcT!àcT!ybREVERSED ZjuSMAL",
  "!yaEL WITH HOOKjvSMAL!yaLHAjmSMAL!ycR!wcR*ybYA*wbYA%ybQ%wbQ%ybW%wbW%ybALEUT KjrSMAL<åeMIDDLE ",
  "jáSMAL!zrN!xrN!yaPE WITH DESCENDERjßSMAL!ypSHHAjáSMAL(åfLEFTjßSMAL<ybDZZHjoSMAL!zcC!xcC*ypEL*wpEL",
  "~531aaARMENIAN CAPITAL LETTER AYByaBENyaGIMyaDAyaECHyaZA!zbzaTyaTOyaZHEyaINIyaLIWN(ycXyaCA;ycKyaHO",
  "yaJAyaGHAD(ycCH&ycMyaYIyaNOWyaSHAyaVO!ycC)ycPycJHyaRA!ycSyaVEWyaTIWN$ycRyaCO$ydYyaPIWR%ycKybOybFE",
  "~559jaMODIFIER LETTER LEFT HALF RINGjaAPOSTROPHEjaEMPHASIS MARKkfXCLAMATION=kbOMM!jjQUESjjABBREVIA",
  "jaSMALL LETTER TURNED AYBwdwaBENwaGIMwaDAwaECHwaZA!xbxaTwaTOwaZHEwaINIwaLIWN(wcXwaCA;wcKwaHOwaJA",
  "waGHAD(wcCH&wcMwaYIwaNOWwaSHAwaVO!wcC)wcPwcJHwaRA!wcSwaVEWwaTIWN$wcRwaCO$wdYwaPIWR%wcKwbOwbFE",
  "&qfIGATURE ECH(ya WITH STROKEjaFULL STOPjaHYPHEN~58DabRIGHT-FACING ARMENIAN ETERNITY SIGaäLEF",
  "$jbDRAM SIG~591aaHEBREW ACCENT ETNAHTAoaSEGOLpaHALSHELEToaZAQEF QATANuaGADOLoaTIPEHAobREVIobZARQ",
  "*odPASoaYETIVoaTEVIRoaGERESHua MUQDAMrbSHAYIoaQARNEY PARAobTELISHA GEDOL*qaZERoaATNAH HAFUKHobMUNA",
  "pbAHAPAKpaERKHAua KEFULAobDARG+qbDM+wbQETAN>qaRAH BEN YOMOoaOLEoaILUYoaDEHIoaZINOR",
  "%hcMARK MASORA CIRChaPOINT SHEVAnaHATAF SEGOLtaPATAHtaQAMATSoaIRIQnaTSERE&nf&nf&ngnaHOLAM",
  "sa HASER FOR VAV$ocUBU*ncDAGESH OR MAPnaMETEGiaUNCTUATION MAQAF,nbRAF!taPASEQ.oaHIN DOTog",
  "$tbSOF PASU!heMARK UPPERmgLOW$taNUN HAFUKHA=ta QATAN~5D0haLETTER ALEFoaBEToaGIMEL!ocDALoaHEoaVAV",
  "oaZAYIN$qaTocToaYODoaFINAL KAFodoaLAMED$uaMEMod!uaNUNodoaSAMEKH:oe%uaPEoc!uaTSADIofoaQOFoaRESH",
  ")ocSHoaTAV~5EFhaYOD TRIANGLE!icIGATURE YIDDISH DOUBLE VyaVAV YOD!äaYOD)hePUNCTUATION GEwaSHAYIM",
  "~600aaARABIC NUMBER SIGNhaSIGN SANAHhaFOOTNOTE MARKER!oaFHAoaMVAT&oaMARK ABOVEga-INDIC CUBE ROOT",
  "nfFOURTHga RAY!naPER MILLE SIGNrfTEN THOUSANDbfFGHANI+hbCOMMhaDATE SEPARATOR&gg POETIC VERS:mbMISR",
  ":oaLLALLAHOU ALAYHE WASSALLAMmiALAYHE maRAHMATULLAH ALAYHEoaDI ALLAHOU ANHUmaTAKHALLUS",
  "iaMALL HIGH TAHsbLIGATURE ALEF WITH LAM WITH YEsaZAINnaFATHAnbDAMMnbKASRiaEMICOLONhaLETTER MARK",
  "hfEND OF TEXThfTRIPLE DOT PUNCTUATIONhjQUES%oaKASHMIRI YEHoaHAMZAoaALEF WITH MADDA ABOVEyhHAMZ",
  "orWAW!ãaBELOW!orYEH!sa*ocBoaTEH MARBUTArapcHoaJEEM:qaHodKoaDALocTH(ocRoaZAINobSEEpdHpaADocD+ocTocZ",
  ")ododGHoaKEHEH WITH TWO DOTS ABOVEßaHREE DOTS BELOWoaFARSI YEH WITH INVERTED V$owFARSI YãlHREE",
  "haTATWEEL>ocFoaQAFocKoaLAMobMEEoaNOON(ocHoaWAWoaALEF MAKSURA$ocYhaFATHATANheDAMMheKASR$ma$ma$ma",
  "hbSHADDiaUKUNhaMADDAH ABOVEhgHAMZAnaBELOW%jaBSCRIPT ALEF*hfINVERTED hbMARK NOON GHUNNhaZWARAKAY",
  "(hgVOWEL SIGN SMALL VsnINVERTED saDOT BELOW(hiREVERS>ma WITH TWO DOTS,hlWAVY ga-INDIC DIGIT ZERO",
  "taONEtaTWOuaHREEtaFOURuaIVEtaSIXuaEVENtaEIGHT*tcNIga PERCENT SIGNhaDECIMAL SEPARATORhkTHOUSANDS",
  "hbFIVE POINTED STAhaLETTER DOTLESS BEHwaQAFobSUPERSCRIPT ALEoaALEF WASLAuaITH WAVY HAMZA ABOVE",
  "èaBELOWoaHIGH HAMZAya ALEFzaWAW&omU WITH!zaYEHocTTsaEHocBEoaTEH WITH RING",
  "xaTHREE DOTS ABOVE DOWNWARDS$ocP&peoeB,orHAHxgTWO DOTS VERTICAL.odNodD$ygHREE DOTS)pdCtaEHoaDDAL",
  ";okDALxaDOT BELOWåa AND SMALL TAHqaHALpeDpbU%xaTHREE DOTS ABOVE DOWNWARDS.olDAL WITH FOUR,ocRR",
  "paEH WITH SMALL VxaRING,opREHxgSMALL V!åa AND DOT ABOVExgTWO DOTS)ocJ+ovREH%oâSEEN",
  "yaTHREE DOTS BELOWía AND THREE DOTS ABOVE!plAD WITH TWO!prAD WITHowTAHowAIN+ocDOTLESS F",
  "&ogFEH WITH DOT MOVEDàf$ocV,owFEH!ocPEH;okQAF WITH*owQAF$oeKoaSWASH KAFoaKAF WITH RING&orK!oc",
  "+owKAF&ocG&omG%qaOEH%olGAF WITH TWOpaUEH:oyGoaLAM WITH SMALL V,opLAM$owLAM,owLAMogNOON WITH DOT",
  "taGHUNNAoaRNOON$yaRING(owNOONobHEH DOACHASHME+opTCHEHogHEH WITH YEHsaGOAL!sgGOAL WITH HAMZA",
  "!ofTEH MARBUTA*okWAWoaKIRGHIZ OEocoaUobY%waYU;olWAW WITH TWOocoaFARSI YEHoaYEH WITH TAILxaSMALL V",
  "&xgDOTob%yaHREE DOTS BELOWsaBARREEya WITH HAMZA ABOVEhaFULL STOP!obA",
  "haSMALL HIGH LIGATURE SAD WITH LAM WITH ALEF MAKSURAààQAFsaMEEM INITIAL FORMsaLAM ALEFsaJEEM",
  "saTHREE DOTSsaSEENhaEND OF AYAHhaSTART OF RUB EL HIZB$saROUNDED ZEROsfUPRIGHT RECTANGULAR",
  "saDOTLESS HEAD OF KHAH,yfSOLATED)nfLOW!taADDAnaWAWnaYEH(sbYEsaNOON*hcPLACE OF SAJD",
  "haEMPTY CENTRE LOW STOPufHIGHhaROUNDED HIGH STOP WITH FILLED CENTRE,raMEEM",
  "haLETTER DAL WITH INVERTED VoqREH>afEXTENDED ARABIC-INDIC DIGITáaONEáaTWOâaHREEáaFOURâaIVEáaSIX",
  "âaEVENáaEIGHT*ácNI.oaSHEEN WITH DOT BELOWopDADopGHAINhaSIGN SINDHI AMPERSANDtaPOSTPOSITION MEN>osH",
  "aaSYRIAC END OF PARAGRAPHhaSUPRALINEAR FULL STOPjqB!taCOLONjmBhgHORIZONTALhaCOLON SKEWED LEFT",
  "ubRIGH!hrSUPRALINEAR !hsSUBLINEAR $jaNTRACTIONhaHARKLEAN OBELUSqgMETqcASTERISC",
  "~70FhaABBREVIATION MARK=hdLETTER ALofSUPERSCRIPT obBEToaGAMALta GARSHUNI$ocDALApbOTLESS DALATH RIS",
  "oaHEoaWAWoaZAIN*odHodT*ojTETHoaYUDHsa HE<odKobLAMADoaMIMoaNUN<odSEMKohFINAL oaEobPocREVERSED ",
  "obSADH,odQobRISoaSHINoaTAW)qaRSIAN BHETHwaGHAMAL!wcDHALAhaPTHAHA ABOVEoaBELOWoaDOTTED$hiZQAP",
  "oaBELOW$hjZQAP$hhRBASnaBELOW,hcDOTTED ZLAMA HORIZONTuaANGULAR%hkH%hkH)hiHBASA-ESAS$hjES$hjES",
  "haRWAHAhaFEMININE DOThaQUSHSHAYA$icUKKAK(hgTWO VERTICAL DOTSzaBELOW!ilHREEsaBELOW!hgOBLIQUE LINE",
  "uaBELOWhaMUSIChaBARREKH~74DhaLETTER SOGDIAN ZHAINwaKHAPHwaFE",
  "(agARABIC LETTER BEH WITH THREE DOTS HORIZONTALLYxaDOT BELOW AND THREE DOTS ABOVE",
  "!çgPOINTING UPWARDSýa AND TWO DOTS ABOVEygWO DOTS BELOW AND DOT$xgINVERTED SMALL VxaSMALL V",
  "%opHAH WITH(oíHAoaDAL WITH TWO DOTS VERTICALLY BELOW AND SMALL TAH&oáDALoaREH WITH STROKE",
  "&olSEEN WITH FOUR(ouAINyhHREE DOTS POINTING DOWNWARD!åfVERTICALLY *ohFEH WITH TWO DOT=oîF",
  "<okKEHEH WITHzgTHREE DOTS$oîKEH$opMEEMáaBELOW)ouNOONyaSMALL TAHãaVoaLAM WITH BAR:oäREHxgHAMZA",
  "<oåSEE)ogHAH WITH SMALL ARABIC LETTER TAHôaAND TWO DOTSoïSEENoïREH$õaBOVE",
  "ogALEF WITH EXTENDED ARABIC-INDIC DIGIT TWOúgHREE!oðFARSI YEHÿgHREEþaFOUR BELOW$oðWAWùgHREE",
  "!oðYEH BARREEÿgTHREE&oòHA>ygEXTENDED ARABIC-INDIC DIGIT FOURyaINVERTED V!ogKAF WITH TWO DOTS",
  "aaTHAANA LETTER HAAoaSHAVIYANIoaNOONU$ocRocB%oiLoaKAAFUocALIobVAAVobMEEM%oeFobDHAAL:odT%ocLAA%oeG",
  ",ohGN<ocSEE!ohDohZohT*ocY!ohPohJohCH:pcTocHHodK>ofT!ocZ;peHpbAADHofDoaTOobZ&ocAIoeGHobQAAFobWAAV",
  "haABAFILIifABAheIBIheEEBEEheUBUheOOBOO$ifBieYBEY$ifBieABOAhaSUKUN:oaNAA~7C0aaNKO DIGIT ZEROkaONE",
  "kaTWOlaHREEkaFOURlaIVEkaSIXlaEVENkaEIGHT*kcNIeaLETTER AlaEElaIlaElaUlaOOmalaDAGBASINNAlaNlaBAlbP",
  "lbTlbJlbCHlbDlbRmbRlbSlbGBlbFlbKlbLlaNA WOLOSOlaMAlbNYmblbHlbWlbY)miYlaJONA JAqbCHqbR",
  "eaCOMBINING SHORT HIGH TONEufLOWufRISINGoiLONG DESCENDtfHIGHtfLOW$tiRISoaNASALIZATION MARK",
  "oaDOUBLE DOT ABOVEebHIGH TONE APOSTROPHeqLOWeaSYMBOL OO DENNENldGBAKURU&haMA)ekEXCLAMeaLAJANYALAN",
  "~7FDefDANTAfbOROME SIGefTAMANaaSAMARITAN LETTER ALAFraBITraGAMANraDALATraIYraBAAraZEN(rcrcTrbYU",
  ",rcKA*rcLABraMIMraNUN$rcSINGAraINraFI;rcTSAADraQUFraRISHraSHAN.rdT)kdMARKra-ALAFpaOCCLUSION",
  "paDAGESHlaODIFIER LETTER EPENTHETIC YUTlpARKkaVOWEL SIGN LONG EvbvaOVERLONG AAvhvc$äavgvb",
  ",ßaSHORT A$vcSHORT%ßaUvb%ßaI$ßaIvbvaOvaSUKUN+lbARK NEQUDA~830kiPUNCTUATIONwaAFSAAQxaNGEDwaBAU",
  "wcATMA&wcSHIYYAALkaABBREVIATION MARK!wbMELODIC QITSwbZIQA!wfwaZAEFwaTURUwbARKAANwaSOF MASHFAAT",
  ",xdNN~840aaMANDAIC LETTER HALQApaABqaGqaDqaHpaUSHENNApaAZpaITpbATqaKSAraqaLqaMqaNqaSpaINpaAPqaSZ",
  "qaQqaRqaSHqaTpaDUSHENNApaKAD+pcAiaAFFRICATION MARKikVOCALIZikGEMIN~85EiaPUNCTUATION",
  "~860aaSYRIAC LETTER MALAYALAM NGAybJybNYybTTybNNßbNybBHybRybLLßbLybSS",
  "~870abARABIC LETTER ALEF WITH ATTACHED FATHæfTOP RIGHT yaRIGHT MIDDLE STROKEypLEF$æbKASR",
  "æfBOTTOM RIGHT æaROUND DOT ABOVEçaIGHT ROUND DOTælLEF$ðaBELOW%yj,õa AND DOT ABOVE,ða AND DOT ABOVE",
  "*øa AND DOT ABOVE$úaLEFT RING$õaLEFT RING$ýaLEFT RING,ìaHAMZAæhLEFhgTATWEEL WITH OVERSTRUCKäaWAW",
  "ubTWO DOTS BELO%oaTHIN YEH=hkBASELINEhkRAISED$oaNOON WITH INVERTED SMALL V",
  "oaHAH WITH INVERTED SMALL V BELOWogTAH WITH DOTxgTHREE DOTSogKEHEH WITH TWO DOTS VERTICALLY",
  "haVERTICAL TAIL~890haPOUND MARK ABOVEilIASTRE~898haSMALL HIGH WORD AL-JUZnaLOW WORD ISHMAAMxaMAALA",
  "waTASHEELhaMADDA WAAJIBhaSUPERSCRIPT ALEF MOKHASSAShaDOUBLED MADDAhgHALF MADDA OVER=ooBEH WITH",
  "xaHAMZA ABOVEogJEEM WITH TWO DOTSouTAHolFEH WITH DOT BELOW AND THREE&ogQAF WITH DOT",
  "oaLAM WITH DOUBLE BAR$orMEEM WITH)omYEH WITH TWO DOTS BELOW ANDïgDOToaREH WITH LOOP",
  "oaWAW WITH DOT WITHINoaROHINGYA YEHoaLOW ALEF+ogDAL WITH THREE DOTSowSADoaGAF WITH INVERTED STROKE",
  "!pbTRAIGHT WA+ogZAIN WITH INVERTED V%owAIN=orK>åa AND NO DOTS ABOVEogBEH WITH SMALL MEEMoyP",
  "ogTEH WITH SMALL TEH=xaSMALL NOON ABOVEorYEH WITH TWO DOTS BELOW AND=ocAFRICAN FwaQAFwaNOON)âaVopT",
  "ppTppCHoqKE<olGHAIN WITH THREEowAFRICAN QAFowJEEMèaBELOW=ohLAM WITH SMALL ARABIC LETTER TA:ocGR",
  "<hcSMALL FARSI YnjHIGH saYEH BARREE WITH TWO DOTS BELOWsaWORD SAHscZ)igARGE ROUND DOTxaBELOW",
  "hgSUKUN!ngCIRCLE$xfINSIDE CIRCLE *nbLOW WA*xaAR-RUBsaSADsaAINsaQAFsaNOON WITH KASRAnqLOW",
  "(yaTH-THALATHAybS-SAJDyaN-NISFxaSAKTAxaQIFxaWAQFAsaFOOTNOTE MARKER)scSIGN SAF",
  "haDISPUTED END OF AYAHhaTURNED DAMMA BELOW,heCURLY FnbDAMMnbKASR$saTANneDAMMneKASR",
  "haTONE ONE DOT ABOVEmgTWO DOTSmgLOOP$uaBELOW$vaBELOWmgLOOP+hjOPENmeDAMMmeKASRhaSMALL HIGH WAW",
  "haFATHA WITH RINGsaDOT ABOVE+hkKASRA WITH!hgLEFT ARROWHEADhrRIGH!waBELOWhrRIGH$hvDOUBLE ",
  "èa WITH DOThãhjDAMMAhaMARK SIDEWAYS NOON GHUNNAaaDEVANAGARI SIGN INVERTED CANDRABINDUqlqaANUSVARA",
  "qbVISARGlbLETTER SHORT sbtaAsaItaIsaUtaUsaVOCALIC RßaLsaCANDRA E,yaEsbsaAI%zaO%yaOsbsaAUsaKAtbHsbG",
  "tbHsbNGsbCtbHsbJtbHsbNYsbTTubHsbDDubHsbNNsbTtbHsbDtbHsbNtbNNsbPtbHsbBtbHsbMsbYsbRtbRsbLtbLubLsbV",
  "sbSHtbStbsbHlaVOWEL SIGN OExbOlaSIGN NUKTAqbAVAGRAH$waAAwaIxaIwaUxaUwaVOCALIC RäaRwaCANDRA E",
  "wcSHORTwbwaAI%âaO%áaOwbwaAU>qbVIRAM+wePRISHTHAMATwaAWlaOM%mbTRESS SIGN UDATTxgANlaGRAVE ACCENT",
  "liACUT>âbLONG wbUxbUlaLETTER QAsbKHHsdGsbZsbDDDHscRsbFsbYYsaVOCALIC RRßaLL.waVOCALIC LäaLlaDANDA",
  "meOUBLE DmaIGIT ZEROraONEraTWOsaHREEraFOURsaIVEraSIXsaEVENraEIGHT*rcNIlaABBREVIATION SIGN",
  "laSIGN HIGH SPACING DOTlaLETTER CANDRA AsaOEtbOsaAWsaUEtbUsaMARWARI DDAsbZHsbHEAVY YsbGGsbJJ",
  "saGLOTTAL STOP(sdDsbBBaaBENGALI ANJIiaSIGN CANDRABINDUnaANUSVARAnbVISARG~985ibLETTER qaApaIqaIpaU",
  "qaUpaVOCALIC RxaL~98FpaEpaAI~993paOpaAUpaKAqbHpbGqbHpbNGpbCqbHpbJqbHpbNYpbTTrbHpbDDrbHpbNNpbTqbH",
  "pbDqbHpbN~9AApbPqbHpbBqbHpbMpbYpbR~9B2pbL~9B6pbSHqbSqbpbH~9BCibSIGN NUKTnbAVAGRAHibVOWEL SIGN AtaI",
  "uaItaUuaUtaVOCALIC RáaR~9C7taEtaAI~9CBtaOtaAU:nbVIRAM=pbKHANDA T~9D7iaAU LENGTH MARK~9DC!pbRRqbH",
  "~9DFpbYY.ilLETTERxaLL;àaLáaL~9E6iaDIGIT ZEROoaONEoaTWOpaHREEoaFOURpaIVEoaSIXpaEVENoaEIGHT*ocNI",
  ";pbRA WITH MIDDLE DIAGONAxjLOWERiaRUPEE MARKoaSIGN;ieCURRENCY NUMERATORàaTWOáaHREEàaFOUR",
  "%ãa LESS THAN THE DENOMINATORraDENOMINATOR SIXTEENiaISSHAR+ifGANDA.paVEDIC ANUSVARA,ifABBREVIATION",
  "$ifSANDHI~A01aaGURMUKHI SIGN ADAK BINDIofoaVISARGA~A05jbLETTER raAqaIraIqaUraU~A0FqaEEqaAI~A13qaOO",
  "qaAUqaKArbHqbGrbHqbNGqbCrbHqbJrbHqbNYqbTTsbHqbDDsbHqbNNqbTrbHqbDrbHqbN~A2AqbPrbHqbBrbHqbMqbYqbR",
  "~A32qbLrbL~A35qbVqbSH~A38rbqbH~A3CjbSIGN NUKT~A3EjbVOWEL SIGN AuaIvaIuaUvaU~A47uaEEuaAI~A4BuaOO",
  "uaAU,obVIRAM~A51oaUDAAT~A59;qcKHqdGqbZqbRR~A5EqbF~A66jaDIGIT ZEROpaONEpaTWOqaHREEpaFOURqaIVEpaSIX",
  "qaEVENpaEIGHT*pcNIjaTIPPIjaADDAKjaIRI=jcUjaEK ONKARjaSIGN YAKASHjaABBREVIATION SIGN",
  "~A81caJARATI SIGN CANDRABINDUoaANUSVARAobVISARG~A85jbLETTER raAqaIraIqaUraUqaVOCALIC RyaL",
  "jaVOWEL CANDRA E~A8F!qaEqaAI$waO~A93!qaOqaAUqaKArbHqbGrbHqbNGqbCrbHqbJrbHqbNYqbTTsbHqbDDsbHqbNNqbT",
  "rbHqbDrbHqbN~AAAqbPrbHqbBrbHqbMqbYqbR~AB2qbLrbL~AB5qbVqbSHrbSrbqbH~ABCjbSIGN NUKTobAVAGRAH",
  "jbVOWEL SIGN AuaIvaIuaUvaUuaVOCALIC RâaRuaCANDRA E~AC7ubuaAI$àaO~ACBubuaAU<obVIRAM~AD0jaOM",
  "~AE0+jlLETTERyaLL.áaLâaL~AE6jaDIGIT ZEROpaONEpaTWOqaHREEpaFOURqaIVEpaSIXqaEVENpaEIGHT*pcNI",
  "jaABBREVIATION SIGNjfRUPEE~AF9=qaZHAjaSIGN SUKUNpaHADDAoaMADDAHoaTHREE-DOT NUKTA ABOVEomCIRCLE",
  "osTWO-~B01aaORIYA SIGN CANDRABINDUlaANUSVARAlbVISARG~B05gbLETTER oaAnaIoaInaUoaUnaVOCALIC RvaL",
  "~B0FnaEnaAI~B13naOnaAUnaKAobHnbGobHnbNGnbCobHnbJobHnbNYnbTTpbHnbDDpbHnbNNnbTobHnbDobHnbN~B2AnbPobH",
  "nbBobHnbMnbYnbR~B32nbLobL~B35nbVnbSHobSobnbH~B3CgbSIGN NUKTlbAVAGRAHgbVOWEL SIGN AraIsaIraUsaU",
  "raVOCALIC RßaR~B47raEraAI~B4BraOraAU:lbVIRAM~B55laOVERLINEgaAI LENGTH MARKhmU~B5CgaLETTER RRAobH",
  "~B5FnbYY:glLETTERvaLL<zaLßaL~B66gaDIGIT ZEROmaONEmaTWOnaHREEmaFOURnaIVEmaSIXnaEVENmaEIGHT*mcNI",
  "gaISSHAR>nbWgaFRACTION ONE QUARTERtaHALFpaTHREE QUARTERS!taSIXTEENTHtcEIGH$vbSIXTEENTH",
  "~B82aaTAMIL SIGN ANUSVARAlbVISARG~B85gbLETTER oaAnaIoaInaUoaU~B8EnaEoaEnaAI~B92naOoaOnaAUnaKA",
  "~B99nbNGnbC~B9CnbJ~B9EnbNYnbTT~BA3nbNNnbT~BA8nbNobNNnbP~BAEnbMnbYnbRobRnbLobLpbLnbVnbSHobSobnbH",
  "~BBEgbVOWEL SIGN AraIsaIraUsaU~BC6raEsaEraAI~BCAraOsaOraAUgaSIGN VIRAMA~BD0gaOM",
  "~BD7gaAU LENGTH MARK~BE6gaDIGIT ZEROmaONEmaTWOnaHREEmaFOURnaIVEmaSIXnaEVENmaEIGHT*mcNI$gcNUMBER T",
  "naONE HUNDREDrbTHOUSAN(hbAY SIGgfMONTHgfYEARgfDEBITghCREDgfAS ABOVEggRUPE,nbSIG",
  "~C00>bcELUGU SIGN COMBINING CANDRABINDU ABOnaANDRABINDUmaANUSVARAmbVISARG%wgANUSVARAhaLETTER ApaA",
  "oaIpaIoaUpaUoaVOCALIC RwaL~C0EoaEpaEoaAI~C12oaOpaOoaAUoaKApbHobGpbHobNGobCpbHobJpbHobNYobTTqbHobDD",
  "qbHobNNobTpbHobDpbHobN~C2AobPpbHobBpbHobMobYobRpbRobLpbLqbLobVobSHpbSpbobH~C3ChbSIGN NUKTmbAVAGRAH",
  "hbVOWEL SIGN AsaItaIsaUtaUsaVOCALIC RàaR~C46saEtaEsaAI~C4AsaOtaOsaAU<mbVIRAM~C55haLENGTH MARKhlAI ",
  "~C58!jaTTER TSAobDZobRRR~C5DoaNAKAARA POLLU~C60<hlLETTERwaLL>ßaLàaL~C66haDIGIT ZEROnaONEnaTWO",
  "oaHREEnaFOURoaIVEnaSIXoaEVENnaEIGHT*ncNI~C77haSIGN SIDDHAM)hfFRACTION DIGIT ZERO FOR ODD POWERS OF",
  "wxONEwxTWOxxHREE$ãpEVENwyTWOxyHREE*maTUUMUabKANNADA SIGN SPACING CANDRABINDnlnaANUSVARAnbVISARG",
  "naSIDDHAMiaLETTER AqaApaIqaIpaUqaUpaVOCALIC RxaL~C8EpaEqaEpaAI~C92paOqaOpaAUpaKAqbHpbGqbHpbNGpbC",
  "qbHpbJqbHpbNYpbTTrbHpbDDrbHpbNNpbTqbHpbDqbHpbN~CAApbPqbHpbBqbHpbMpbYpbRqbRpbLqbL~CB5pbVpbSHqbSqb",
  "pbH~CBCibSIGN NUKTnbAVAGRAHibVOWEL SIGN AtaIuaItaUuaUtaVOCALIC RáaR~CC6taEuaEtaAI~CCAtaOuaOtaAU",
  "<nbVIRAM~CD5iaLENGTH MARKilAI ~CDD!kaTTER NAKAARA POLLUpaFA~CE0:ilLETTERxaLL<àaLáaL",
  "~CE6iaDIGIT ZEROoaONEoaTWOpaHREEoaFOURpaIVEoaSIXpaEVENoaEIGHT*ocNI~CF1iaSIGN JIHVAMULIYAndUPADHMAN",
  "~D00)acMALAYALAM SIGN COMBINING ANUSVARA ABOqaANDRABINDUpaANUSVARApbVISARG!kjLETTER VEDICrbsaAraI",
  "saIraUsaUraVOCALIC RzaL~D0EraEsaEraAI~D12raOsaOraAUraKAsbHrbGsbHrbNGrbCsbHrbJsbHrbNYrbTTtbHrbDDtbH",
  "rbNNrbTsbHrbDsbHrbNsbNNrbPsbHrbBsbHrbMrbYrbRsbRrbLsbLtbLrbVrbSHsbSsbrbHrbTTT",
  "kbSIGN VERTICAL BAR VIRAMpjCIRCULpbAVAGRAHkbVOWEL SIGN AvaIwaIvaUwaUvaVOCALIC RãaR~D46vaEwaEvaAI",
  "~D4AvaOwaOvaAU=pgkaLETTER DOT REPH!pbPAR~D54!raCHILLU MyaYyaLLLkaAU LENGTH MARK",
  "kaFRACTION ONE ONE-HUNDRED-AND-SIXTIETHxfFORtaTHREE EIGHTIETHS!xfTWENycEN$zgTWEN&ycIF+raARCHAIC II",
  "raVOCALIC RRzaLLkbVOWEL SIGN VOCALIC ãaL~D66kaDIGIT ZEROqaONEqaTWOraHREEqaFOURraIVEqaSIXraEVEN",
  "qaEIGHT*qcNI$kcNUMBER TraONE HUNDREDvbTHOUSANkaFRACTION ONE QUARTERxaHALFtaTHREE QUARTERS",
  "!xaSIXTEENTHxcEIGH$zbSIXTEENTHkaDATE MARKkaLETTER CHILLU NNzayaRRyaLzaLyaK",
  "~D81aaSINHALA SIGN CANDRABINDUnaANUSVARAYAndVISARG~D85ibLETTER AYANNqfAqfErfEpfIqfIpfUqfUpgIRsfU",
  "qgLsfUpfEqfEpfAIpfOqfOpfAU~D9AqfLPAPRAANA KAppMAHA!ßgG!àgGpbKANTAJA NAASIKYAY!pjSANYAK%ßgC%àgC!ßgJ",
  "!àgJ(pnTAALUxhSANYOOGA NAAK)xgJ&ßgTTpqMAHA!ßgDDpqMAHAqgUURDHAJA N(xgDD(àg(ág(àg(ág(plDANT~DB3(yg",
  "%ßgP%àgP!ßgB!àgBrf$qjMBpgYpgR~DBD,xgL~DC0pgVpgTAALUJA SpkMUURDHA%xgSpgH$zgLpgF~DCAicSIGN AL-LAKU",
  "~DCFibVOWEL SIGN AELA-PILLthKETTI AEDtlDIGA!zgIS!ygIS%zhPA~DD6%yhPA~DD8thGAETTtbKOMBUVthDIGA ",
  "!yb DEK.tkKOMBUVA HAA äkDIGA äbGAYANUKITTtl~DE6iaLITH DIGIT ZEROtaONEtaTWOuaHREEtaFOURuaIVEtaSIX",
  "uaEVENtaEIGHT*tcNI~DF2;thDIGA GAETT;tnDIGibPUNCTUATION KUNDDALIY~E01aaTHAI CHARACTER KO KAIqcHO KH",
  "vaUAT!vcWvaONtaRAKHANGpaNGO NGUpaCHO CHANvaINGvcApaSO SO!vaOE%pdYO YpaDO CHADApaTO PATAK*pdTHO T",
  "taNANGMONTHOtbPHUTHApaNO NEN(saDEK$qcO T(vaUNG)wbHA!vcO(taUpaBO BAIMAIpaPO PLA(pePHO PpaFO FA!vaAN",
  "!uaN!taSAMPHAOpaMO MApaYO YAKpaRO RUAqaU+pcLO LIqaUpaWO WAEN;pcSO SAsaRUSI!tbUpaHO HIP)saCHULA",
  "*pcO A$saNOKHUKpaPAIYANNOI(qbARA paMAI HAN-AKAT!vaAvaMuaIvaIuaUEwaEvavaUpbPHINTH",
  "~E3FgaURRENCY SYMBOL BAHT&ububAuaOuaAI MAIMUANàaALAIpaLAKKHANGYAOpaMAIYAMOKsaTAIKHUsa EKtaTHOuaRI",
  "taCHATTAWApaTHANTHAKHATpbNIKHAHI.pcYAMAKKpcFONGMfaDIGIT ZEROlaONElaTWOmaHREElaFOURmaIVElaSIXmaEVEN",
  "laEIGHT*lcNI.paANGKHANKHUpaKHOMUT~E81aaLAO LETTER KOmaHO SUNG~E84paTAM~E86laPALI GHAlaNGOlbC$qcC",
  "&lfS~E8C!qcJ&mbY!qbNYqbTTsbHqbDDsbHqbNNlaDOlbTmaHO SUNGpaTAM(rc:mblbBlbP(lhP(lfFlfPH$lgF*qcBlaMO",
  "lbY%lcLO LI~EA5paOOT~EA7laWO(lcSANSKRIT SvbS+lgSlgH,qbLLlaO<lgeaELLIPSISeaVOWEL SIGN ApaMAI KAN",
  "paAAqaMpaIqaIpaYqaYpaUqaUeaSIGN PALI VIRAMA,ubOeaSEMIVOWEL SIGN LOtbNY~EC0$paEqaIpaOpaAYqaI",
  "~EC6eaKO LA~EC8eaTONE MAI EKnaTHOoaInaCATAWAeaCANCELLATION MARKeaNIGGAHITA~ED0eaDIGIT ZEROkaONE",
  "kaTWOlaHREEkaFOURlaIVEkaSIXlaEVENkaEIGHT*kcNI~EDCeaHO NOhbMebLETTER KHMU GqbNY",
  "~F00aaTIBETAN SYLLABLE OMiaMARK GTER YIG MGO TRUNCATED Aßb-UM RNAM BCAD MãdGTER TSHEG",
  "ndINITIAL YIG MGO MDUNndCLOSING YIG MGO SGABodARET YIG MGO PHUR SHADniYIG MGO TSHEGnaSBRUL SHAD",
  "naBSKUR YIG MGOoiKA- SHOG)paTERSYLLABIC TSHEGnaDELIMITER TSHEG BSTAR&odneNYIS nfTSHEGnkNYIS ",
  "nfRIN CHEN SPUNGSofGYA GRAM;ta-DZUD RTAGS ME LONG CAN+ngGTERiaLOGOTYPE SIGN CHAD RTAGSwgLHAG",
  "igASTROLOGICAL SIGN SGRA GCAN -CHARßa-KHYUD PA!àcDONG TSHUiaSIGN RDEL DKAR GCIGyaNYISyaSUM$sfNAG",
  "xaNYIS&xbRDEL NAiaDIGIT ZEROoaONEoaTWOpaHREEoaFOURpaIVEoaSIXpaEVENoaEIGHT*ocNIocHALF OtaTWOuaHREE",
  "taFOURuaIVEtaSIXuaEVENtaEIGHT*tcNItaZEROiaMARK BSDUS RTAGSnaNGAS BZUNG NYI ZLA",
  "naCARET -DZUD RTAGS BZHI MIG CAN!yaSGOR RTAGSnaCHE MGOnaTSA -PHRUnaGUG RTAGS GYONzaAS!nfANG KHANG",
  "zaASibSIGN YAR TSHEniMiaLETTER KAqbHpbGqbHpbNGpbCqbHpbJ~F49pbNYpbTTrbHpbDDrbHpbNNpbTqbHpbDqbHpbN",
  "pbPqbHpbBqbHpbMpbTSrbHpbDZrbHpbW!pdqbpb-pbYpbRpbL,pdqbSqbpbHpb%pdKpbFIXED-FORM RpbKKpbRR",
  "~F71ibVOWEL SIGN AtaIuaItaUuaUtaVOCALIC RáaRàaLáaLtaEuaEtaOuaOibSIGN RJES SU NGA RoaNAM BCAD",
  ";tbREVERSED âaI$naNYI ZLA NAA DAnaSNA LDANiaMARK HALANTAncPALU$naLCI RTAGSngYANG!paE TSA CANneMCHU",
  "$ncGRU CAN RGYINriMED$niINVERTED &jpUBJOINED SxeMCHUxiINVERTED saLETTER KAßbHzbGßbHzbNGzbCßbHzbJ",
  "~F99zbNYzbTTàbHzbDDàbHzbNNzbTßbHzbDßbHzbNzbPßbHzbBßbHzbMzbTSàbHzbDZàbHzbW!zdßbzb-zbYzbRzbL,zdßbSßb",
  "zbHzb%zdKzbFIXED-FORM WébYébR~FBEibKU RU KHra BZHI MIG CANiaCANTILLATION SIGN HEAVY BEATßfLIGHT",
  "ßaCANG TE-UßaSBUB -CHALiaSYMBOL DRIL BUpaRDO RJEpaPADMA GDAN!wa RGYA GRAMpaPHUR PA&pdNOR",
  "va NYIS -KHYILwhGSUMwhBZHI~FCEjaIGN RDEL NAG RDEL DKARwaGSUM+icMARK BSKA- SHOG GI MGO RGY",
  "noMNYAM YInaNYIS TSHEGnaINITIAL BRDA RNYING YIG MGO MDUN MAndCLOSING BRDA RNYING YIG MGO SGAB",
  "aaRIGHT-FACING SVASTI SIGNauLEF!ya WITH DOTSaãLEF&naLEADING MCHAN RTAGSnpTRAIL"]

end Conductor.CharName
