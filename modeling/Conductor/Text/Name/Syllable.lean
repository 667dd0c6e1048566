/-! The names of syllables and radicals of East Asia and Africa, with presentation forms. -/

namespace Conductor.CharName

def syllables : List String := [
  "~3000aaIDEOGRAPHIC SPACEmaCOMMAmaFULL STOPaaDITTO MARKaaJAPANESE INDUSTRIAL STANDARD SYMBOL",
  "$maITERATION MARKmfCLOSINGmaNUMBER ZEROaaLEFT ANGLE BRACKETapRIGH!fnDOUBLE awRIGH!fiCORNERaqRIGH",
  "!foWHITE awRIGH!fjBLACK LENTICULAaßRIGH:afPOSTALafGETA%fiTORTOISE SHELLayRIGH(ftWHITEaßRIGH",
  "%fwWHITE aãRIGH!liSQUAREawRIGHaaWAVE DASH,afREVERSED DOUBLE PRIME QUOTATIONaàaàLOW <la FACE",
  "abHANGZHOU NUMERAL ONraTWOsaHREEraFOURsaIVEraSIXsaEVENraEIGHT*rcNI.afIDEOGRAPHIC LEVEL TONE",
  "mkRISINGmnDEPARTmnENTERakHANGUL SINGLE DOThqDOUBaaWAVY DASH!afVERTICAL KANA REPEAT",
  "veWITH VOICED SOUND !za UPPER HALF!ða UPPER HALF!ßhLOW%afCIRCLED POSTAL",
  ",maTELEGRAPH LINE FEED SEPARATOR SYMBOL=raTENsaWENTYscHIR+jfIDEOGRAPHIC ITERATIONafMASU",
  "!akPART ALTERN)maVARIATION INDICATORmaHALF FILL SPACE~3041aaHIRAGANA LETTER SMALL Aqb!waIqb!waUqb",
  "!waEqb!waOqbqaKAqbGqaKIqbGqaKUqbGqaKEqbGqaKOqbGqaSAqbZqaSIqbZqaSUqbZqaSEqbZqaSOqbZqaTAqbDqaTIqbD",
  ",rbMALL TqcqbDqaTEqbDqaTOqbDqaNAraIraUraEraOqaHAqbBqbPqaHIqbBqbPqaHUqbBqbPqaHEqbBqbPqaHOqbBqbPqaMA",
  "raIraUraEraOqaSMALL YAqc!xaUqc!xaOqcqaRAraIraUraEraO.wbWqcraIraEraOqaNqaVU)wbKxaE",
  "~3099aaCOMBINING KATAKANA-HIRAGANA VOICED SOUND MARKárSEMI-!aè!aí&jaITERATION MARKjoVOICED ",
  "jaDIGRAPH YORI%saDOUBLE HYPHENia LETTER SMALL Aqb!waIqb!waUqb!waEqb!waOqbqaKAqbGqaKIqbGqaKUqbGqaKE",
  "qbGqaKOqbGqaSAqbZqaSIqbZqaSUqbZqaSEqbZqaSOqbZqaTAqbDqaTIqbD,rbMALL TqcqbDqaTEqbDqaTOqbDqaNAraIraU",
  "raEraOqaHAqbBqbPqaHIqbBqbPqaHUqbBqbPqaHEqbBqbPqaHOqbBqbPqaMAraIraUraEraOqaSMALL YAqc!xaUqc!xaOqc",
  "qaRAraIraUraEraO.wbWqcraIraEraOqaNqaVU)wbKxaEqaVAraIraEraOjaMIDDLE DOT",
  "ia-HIRAGANA PROLONGED SOUND MARKif ITERATIONjoVOICED jaDIGRAPH KOTO~3105aaBOPOMOFO LETTER BqaPqaM",
  "qaFqaDqaTqaNqaLqaGqaKqaHqaJqaQqaXqaZHqbCqbSqaRqaZqaCqaSqaAqaOqaEraHqaAIqbEqaAUqbOqaANqbE!saGqcEraR",
  "qaIqaUqbIqaV(qcqaGNqaIHqaO WITH DOT ABOVEqaNN~3131aaHANGUL LETTER KIYEOKogSSANG!ua-SIOSoaNIEUN",
  "ta-CIEUCuaHIEUHoaTIKEUTogSSANGoaRIEULta-KIYEOKuaMIEUMuaPIEUPuaSIOSuaTHIEUTHubPHIEUPubHIEU(of(of",
  "ofSSANG!ta-SIOSoepdSANGSoaIEUNGoaCIEUCofSSANGoaCHIEUCHobKHIEUK<oh<oh<ofoaApaEoaYAqaEoaEOpa!ocYqa",
  "oaOoaWAqaEobO(pboaU*ocWqapaIoaYUobEoaYIobhaFILLER!oaSSANGNIEUNoaNIEUN-TIKEUTuaSIOSuePAN",
  "oeRIEUL-KIYEOK-uaTIKEUT!ufPIEUPveANuaYEORINHIEUHoaMIEUM-PIEUPuaSIOSuePANoaKAPYEOUNMIEUM",
  "oaPIEUP-KIYEOKuaTIKEUT!ugSIOS-zaTIKEUTuaCIEUCuaTHIEUTH)waPIEUPwfSSANG(oltaNIEUN)oltaPIEUPtaCIEUC",
  "=ohoaSSANGIEUNGofYESwa-SIOSxePAN:xaHIEUPH&taHIEUHofYEORINpaO-YAtaEraIpaU-YEOtaraIoaARAEAtaE",
  "~3190aaIDEOGRAPHIC ANNOTATION LINKING MARKxfREVERSExgONxfTWOyfHREExfFOURxfTOPxfMIDDLExfBOTTOM",
  "xfFIRSTxfSECONDxgTHIR)àfTHxfHEAVEN!xiEAxfMANaaBOPOMOFO LETTER BUqaZIqbJqaGUqaEEraNNqaOOraNNqaIR",
  "!qcAqcIqcUqaIMqaNGG%qdArcUraMqbOraNG+taNjaFINAL LETTER PwaTwaKwaH&qaGHqbLqaZY%waG%raWqbKqaOEqaAH",
  ".acCJK STROKElaWGlbXlcBlaSWlaHZZnaGmaP!nbWldS!naTnaZP%mcP&oanaZZlaNlaHlaSlaPlbSlaD)namaG<nambWmaT",
  "maGlaPDmaZlaTN(mbZmaWGlcHXmbZZZlbPlaQ~31F0aaKATAKANA LETTER SMALL KUwaSIxaUwaTOwaNUwaHAxaIxaUxaE",
  "xaOwaMUwaRAxaIxaUxaExaOaaPARENTHESIZED HANGUL KIYEOKvaNIEUNvaTIKEUTvaRIEULvaMIEUMvaPIEUPvaSIOS",
  "vaIEUNGvaCIEUCwaHIEUCHvbKHIEUKvbTHIEUTvbPHIEUPvbHIEU<àa A<ßa A<àa A<ßa A<ßa A<ßa A<za A<ßa A<ßa A",
  "<áa A<áa A<áa A<áa AvdHIEU(àaUoaKOREAN CHARACTER OJEONåa HU~3220oaIDEOGRAPH ONEyaTWOzaHREEyaFOUR",
  "zaIVEyaSIXzaEVENyaEIGHT*ycNI$ycTybMOO)ßbRyaWATERzaOODyaMETALyaEARTH,zbUzaTOCK<ycHAyaSOCIETY:zbAM",
  ")ycSPECIyeFINAN;ycCONGRATULATIyaLABORyaREPRESENTyaCALL*zbTUDzaUPERVISEydENTERPRybRESOURCycALLIAN",
  ",zcESTIV$àaTyaSELFyaREACH;aeCIRCLED IDEOGRAPH QUESsbKINDERGARTEsaSCHOOLsaKOTO",
  "iaNUMBER TEN ON BLACK SQUAREqqWENTYqsHIRptFOqsIFpsSIXqsEVENpsEIGH;daTNERSHIP SIGN*ybwaTWOxaHREE",
  "waFOURxaIVEwaSIXxaEVENwaEIGHT*wcNI>vava ONEwaTWOxaHREEwaFOURxaIVEiaHANGUL KIYEOKpaNIEUNpaTIKEUT",
  "paRIEULpaMIEUMpaPIEUPpaSIOSpaIEUNGpaCIEUCqaHIEUCHpbKHIEUKpbTHIEUTpbPHIEUPpbHIEU<va A<ua A<va A",
  "<ua A<ua A<ua A<ta A<ua A<ua A<wa A<wa A<wa A<wa A<ua AiaKOREAN CHARACTER CHAMKOzaJUEUI+vaU",
  "aaKOREAN STANDARD SYMBOL!iaIDEOGRAPH ONEsaTWOtaHREEsaFOURtaIVEsaSIXtaEVENsaEIGHT*scNI$scTsbMOO)ubR",
  "saWATERtaOODsaMETALsaEARTH,tbUtaTOCK<scHAsaSOCIETY:tbAM)scSPECIseFINAN;scCONGRATULATIsaLABOR",
  "saSECRETsaMALEseFEscSUITABsaEXCELLENTscPRI*seATTENsaITEMsaREST.uaPYuaRRECTsaHIGHsaCENTREsaLOWtaEFT",
  "sbRIGH=tbEDICIN.sdRELIGsaSTUDY>ubPERVISsdENTERPR;vaOURCEscALLIAN*seNiaNUMBER THIRTY SIXxaEVEN",
  "waEIGHTwaNINEpaFORTYua ONEvaTWOwaHREEvaFOURwaIVEvaSIX,pjFO,pjFO*vcNI,qcIF",
  "abIDEOGRAPHIC TELEGRAPH SYMBOL FOR JANUARæeFEBRæaMARCHæaAPRIL!èaYæaJUNEèaLYæaAUGUSTæaSEPTEMBER",
  "ædOCTO!æfNOVæfDECaaSQUARE HGhbERiaVaaLIMITED LIABILITY SIGNaaCIRCLED KATAKANA AraIraUraEraOraKAsaI",
  "saUsaEsaOraSAsaIsaUsaEsaOraTAsaIsaUsaEsaOraNAsaIsaUsaEsaOraHAsaIsaUsaEsaOraMAsaIsaUsaEsaOraYAsaU",
  "saOraRAsaIsaUsaEsaOraWAsaIsaEsaO%acSQUARE ERA NAME REIhaAPAATOiaRUHUAibNPEiaARUhbININGjaTIhaUON",
  "haESUKUUDOiaEKAAhaONSUibOMhaKAIRIjaRATTOkaORII*hcGARjaNMAibIGjaNII&idYU$jbRUDA*ibIRlaGURAMU",
  "lbMEETORlaWATTO$hgnaTON(idURUZEkaOONEiaEESUiaORUNAjaOPO+hcSAIKUjbNTIIMibIRINGiaENTIlaO*hcDAAiaESI",
  ">hdD<hdhaNANOibOTThaHAITU*hfPAAkaTUhbBAARERhcPIASUTOjcKUkaO%icIhaHUARADDOjbIIT)idUSSY!jaRAN",
  "iaEKUTAARU)ibESjaNIHI$jbRUT!kaSUjaEZIhaBEETA(ibOINThcBORU,ibO$jbND.icOOkaNhaMAIKUROkaRUjaHHAjaRUKU",
  "jaNSYONicIKURjaRIlaBAARUiaEGAlaTONjaETORU<hcYAAkaRUiaUAN%heRITjaRAiaUPIIjaUBURUibEMjaNTOGENhaWATTO",
  "abIDEOGRAPHIC TELEGRAPH SYMBOL FOR HOUR ZERëaONEëaTWOìaHREEëaFOURìaIVEëaSIXìaEVENëaEIGHT*ëcNI$ëcT",
  "%ëeEL)ëcTWEL$ìcHIRTEëfFOUìeIFëeSIXìeEVENëeEIGHëeNINE*îaNTYña-ONEòaTWOóaHREEòaFOURaaSQUARE HPAhbD",
  "haAUhaBARhaOVhaPChaDMja SQUAREDkcCUBhaIUhaERA NAME HEISEIqaSYOUWAqaTAISYOUqaMEIZIhaCORPORATION",
  "haPA AMPShaNAhbMU ibhbKiaBhbMhbGhaCALhdKhaPFhbN,kaFkaGibhbKhaHZhcKhcMhcGhcT*kaLibhbDhbKhaFMhbN(kaM",
  "ibhbChbK$ja SQUAREDhjChjhjK%kcCUBhhChhhhK!jaOVER Spa SQUAREDhaPAhcKhcMhcGhaRAD)hhRAD)hpRADhaPShbN",
  ".icUibhaPVhbN%kaVibhbK!ja MEGAhaPWhbN(kaWibhbK(ifWhaK OHMheMhbAhaBQhaCCiaDia OVER KGiaOhaDBhaGY",
  "haHAiaPhaINhaKKiaM CAPITALiaThaLMiaNiaOGiaXhaMB SMALLibIibOhaPHiaMibPiaRhbSiaVhaWBhaV OVER MhhA",
  "aaIDEOGRAPHIC TELEGRAPH SYMBOL FOR DAY ONEêaTWOëaHREEêaFOURëaIVEêaSIXëaEVENêaEIGHT*êcNI$êcT%êeEL",
  ")êcTWEL$ëcHIRTEêfFOUëeIFêeSIXëeEVENêeEIGHêeNINE*íaNTYða-ONEñaTWOòaHREEñaFOURòaIVEñaSIXòaEVEN",
  "ñaEIGHT*ñcNI,ëcHIRða-ONEaaSQUARE GAL~4DC0(adHEXAGRAM FOR THE CREATIVE HEAraRECEPTIVE EARTH",
  "naDIFFICULTY AT THE BEGINNINGnaYOUTHFUL FOLLY!ndWAITnaCONFLICT&raARMYnaHOLDING TOGETHER",
  "%ndSMALL TAMndTREADnaPEACEnaSTANDSTILLnaFELLOWSHIPnaGREAT POSSESSIONnaMODESTYnaENTHUSIASM)ndFOLLOW",
  "naWORK ON THE DECAYEDnaAPPROACH(ndCONTEMPLATnaBITING THROUGH.ndGRnaSPLITTING APARTnaRETURN",
  "$ncINNOCEN:taTAMING:paUTH CORNERS<uaREPONDERANCEnaTHE ABYSMAL WATERraCLINGING FIRE(peFLU:nfDUR",
  "+qaREAT(uaOWERnaPROGRESSnaDARKENING OF THE LIGHT)raFAMILY(neOPPOSIoeBSTRUC:ngDELIVpbCREASngIN",
  "naBREAKTHROUGHnaCOMING TO MEET.ocATHERING TOGETHnaPUSHING UPWARD+qdRESS.raWELL,neREVOLU!raCAULDRON",
  "raAROUSING THUNDERraKEEPING STILL MOUNTAIN:paVELOPMENT!rbMARRYING MAIDE=neABUND&rcWANDER",
  "raGENTLE WINDraJOYOUS LAKE:neDISPERndLIMITATnaINNER TRUTH)neSMALL PREPONDER$neAFTER COMPLEnlBEFORE",
  "~A000aaYI SYLLABLE ITnaXnanaPnaEToaXoaoaPmaATnaXnanaPmaUOXoaoaPmaOTnaXnanaP<mcnamaWUmaBIToaXoaoaP",
  "oaETpaXpapaPnaAToaXoaoaPnaUOXpapaPnaOToaXoaoaP<ncoaoaPnaUToaXoaoaPoaRXpanaYToaXoaoaPoaRXpamaPIToaX",
  "oaoaPoaEXpapaPnaAToaXoaoaPnaUOXpapaPnaOToaXoaoaPnaUToaXoaoaPoaRXpanaYToaXoaoaPoaRXpamaBBITpaXpapaP",
  "paETqaXqaqaPoaATpaXpapaPoaUOXqaqaPoaOTpaXpapaP<ocpapaPoaUTpaXpapaPpaRXqaoaYTpaXpapaPmaNBITpaXpapaP",
  "paEXqaqaPoaATpaXpapaPoaOTpaXpapaPoaUTpaXpapaPpaRXqaoaYTpaXpapaPpaRXqamaHMITpaXpapaPpaEXqaqaPoaAT",
  "paXpapaPoaUOXqaqaPoaOTpaXpapaPoaUTpaXpapaPpaRXqaoaYXpapaPpaRXqamaMIToaXoaoaPoaEXpapaPnaAToaXoaoaP",
  "naUOTpaXpapaP%ncoaXoaoaP=ncoa,oboaXoaoaPoaRXpanaYToaXoaoaPmaFIToaXoaoaPnaAToaXoaoaPnaOXoaoaPnaUT",
  "oaXoaoaPoaRXpanaYToaXoaoaPmaVIToaXoaoaPoaETpaXpapaPnaAToaXoaoaPnaOToaXoaoaP.ncoaPnaUToaXoaoaPoaRX",
  "panaYToaXoaoaPoaRXpamaDIToaXoaoaPoaEXpapaPnaAToaXoaoaPnaUOXpanaOToaXoaoaP;ncoaoaPnaUToaXoaoaPoaRX",
  "pamaTIToaXoaoaPoaEXpapaPnaAToaXoaoaPnaUOTpaXpapaP%ncoaXoaoaP=ncoaoaP.oboaXoaoaPoaRXpamaDDITpaXpa",
  "paPpaEXqaqaPoaATpaXpapaPoaUOXqaqaPoaOTpaXpapaP<ocpapaPoaUTpaXpapaPpaRXqamaNDITpaXpapaPpaEXqaoaAT",
  "paXpapaPoaOTpaXpapaP,ocpapaPoaUTpaXpapaPpaRXqamaHNITpaXpapaPpaETqaXqaqaPoaATpaXpapaPoaUOXqaoaOTpaX",
  "paP:ocpapaPoaUTmbNIoaXoaoaPoaEXpapaPnaAXoaoaPnaUOXpapaPnaOToaXoaoaP;ncoaoaPnaUToaXoaoaPoaRXpa",
  "maHLITpaXpapaPpaEXqaqaPoaATpaXpapaPoaUOXqaqaP$ocpapaP;ocpapaPoaUTpaXpapaPpaRXqaoaYTpaXpapaPpaRXqa",
  "maLIToaXoaoaPoaETpaXpapaPnaAToaXoaoaPnaUOTpaXpapaP%ncoaXoaoaP=ncoaoaP.oboaXoaoaPoaRXpanaYToaXoaoaP",
  "oaRXpamaGIToaXoaoaPoaETpaXpapaPnaAToaXoaoaPnaUOTpaXpapaP%ncoaXoaoaP>ncoaXoaoaP:oboaXoaoaPoaRXpa",
  "maKIToaXoaoaPoaEXpapaPnaAToaXoaoaPnaUOXpapaPnaOToaXoaoaPnaEToaXoaoaPnaUToaXoaoaPoaRXpamaGGITpaXpa",
  "paEXqaqaPoaATpaXpapaPoaUOTqaXqaqaP%ocpaXpapaPoaETpaXpapaP:pbpaXpapaPpaRXqa+mcMGIqaoaATpaXpapaP",
  "oaUOXqaqaPoaOTpaXpapaP;ocpapaPoaUTpaXpapaPpaRXqamaHXITpaXpapaPpaETqaXqaqaPoaATpaXpapaPoaUOTqaXqa",
  "qaP%ocpaXpapaP=ocpapaP$mcNGIqaqaPoaATpaXpapaPoaUOTqaXqa$ocpaXpapaP<ocpapaPmaHIToaEXpanaAToaXoaoaP",
  "naUOTpaXpapaP%ncoaXoaoaP<ncoaoaP=mcWoaXoaoaP<mdWpapaP$ncoaoaPnaEXoaoaPmaZIToaXoaoaPoaEXpapaPnaAT",
  "oaXoaoaPnaUOXpapaPnaOToaXoaoaP<ncoaoaPnaUToaXoaoaPoaRXpanaYToaXoaoaPoaRXpamaCIToaXoaoaPoaETpaXpa",
  "paPnaAToaXoaoaPnaUOXpapaPnaOToaXoaoaP<ncoaoaPnaUToaXoaoaPoaRXpanaYToaXoaoaPoaRXpamaZZITpaXpapaP",
  "paETqaXqaqaPoaATpaXpapaPoaOXpapaP,ocpapaPoaUXpapaPpaRXqaoaYTpaXpapaPpaRXqamaNZITpaXpapaPpaEXqaqaP",
  "oaATpaXpapaPoaUOXqa!ocpaP.ocpa(pbpapaPpaRXqaoaYTpaXpapaPpaRXqamaSIToaXoaoaPoaEXpapaPnaAToaXoaoaP",
  "naUOXpapaPnaOToaXoaoaP<ncoaoaPnaUToaXoaoaPoaRXpanaYToaXoaoaPoaRXpanaSITpaXpapaPpaEXqaqaPoaATpaXpa",
  "paPoaOTpaXpapaP.ocpapaPoaUTpaXpapaPoaYTpaXpapaPpaRXqamaZHATpaXpapaPoaUOXqaqaPoaOTpaXpapaPoaETpaXpa",
  "paPoaUTpaXpapaPpaRXqaoaYTpaXpapaPpaRXqamaCHATpaXpapaPoaUOTqaXqaqaP%ocpaXpapaPoaETpaXpapaP.pbpapaP",
  "paRXqaoaYTpaXpapaPpaRXqamaRRAXpaoaUOXqaoaOTpaXpapaPoaETpaXpapaPoaUTpaXpapaPpaRXqaoaYTpaXpapaPpaRX",
  "qamaNRATpaXpapaPoaOXpapaPoaETpaXpapaPoaUTpaXpapaPpaRXqaoaYTpaXpapaPpaRXqamaSHATpaXpapaPoaUOXqaqaP",
  "oaOTpaXpapaPoaETpaXpapaPoaUTpaXpapaPpaRXqaoaYTpaXpapaPpaRXqamaRAToaXoaoaPnaUOXpapaPnaOToaXoaoaP",
  "naEXoaoaPnaUToaXoaoaPoaRXpanaYToaXoaoaPoaRXpamaJIToaXoaoaPoaETpaXpapaPnaUOTpaXpapaP%ncoaXoaoaP*ob",
  "oaXoaoaPoaRXpanaYToaXoaoaPoaRXpamaQIToaXoaoaPoaETpaXpapaPnaUOTpaXpapaP%ncoaXoaoaP*oboaXoaoaPoaRXpa",
  "naYToaXoaoaPoaRXpamaJJITpaXpapaPpaETqaXqaqaPoaUOXqaqaPoaOTpaXpapaPoaUTpaXpapaPpaRXqaoaYTpaXpapaP",
  "maNJITpaXpapaPpaETqaXqaqaPoaUOXqaoaOTpaXpapaP(pbpapaPpaRXqaoaYTpaXpapaPpaRXqanaYITpaXpapaPpaETqaX",
  "qaqaPoaUOXqaqaPoaOTpaXpapaPoaUTpaXpapaPmaXIToaXoaoaPoaETpaXpapaPnaUOXpanaOToaXoaoaPnaYToaXoaoaP",
  "oaRXpamaYIToaXoaoaPoaETpaXpapaPnaUOTpaXpapaP%ncoaXoaoaP*oboaXoaoaPoaRXpanaYToaXoaoaPoaRXpa",
  "~A490>dcRADICAL QlaLIlaKITlaNYIPlbCYlaSSIlaGGOPmbElaMI)lcHXlaLYRlaBBUT(lcMlaYO$lcP(naUOlaTATlaGA",
  "laZUP=naTlaDDURlcB)lcGG.lcNYlaTU!lc:lcJJlbZOlbPY<mbMlaYIT,lcVlaSHYlaVEPlaZAlaJO;mbZU.naY.lcG!naIE",
  "laWOlaDU,naUR%lcLlaCYmaUOPmbIlbHXO(naAT)lcZ!naOPlaCHElaZZIET,lcNBlbK~A4D0aaLISU LETTER BAmbPnbHmbD",
  "mbTnbHmbGmbKnbHmbJmbCnbHmbDZmbTSobHmbMmbNmbLmbSmbZHnbmbNGmbHmbXmbHHmbFmbW;mdmbYmbGHmbnaEmbnaUmaI",
  "maOmaUnaEnaHmaOEmaTONE MYA TIraNA PO!vaCYAvaBOvaNAvaJEUfaPUNCTUATION COMMAraFULL STOP",
  "aaVAI SYLLABLE EEpaN!ncHncWqaN!ncPncBHocndMncKP!odGnencFncVncTocHndDpcHncLncRncDndNncSocHncZocHncC",
  "ncJndNncYncKncNGGndncMncNocYnaIoaNnaHIpaNnaWIpaNnaPInbBHobncMnbKP!ocGndnbFnbVnbTobHncDpbHnbLnbRnbD",
  "ncNnbSobHnbZobHnbCnbJncNnbYnbKnbNGGncnbMnbNobYnaAoaNncNGnaHApaNnaWApaNnaPAnbBHobncMnbKPqaN$ocGnd",
  "nbFnbVnbTobHncDpbHnbLnbRnbDncNnbSobHnbZobHnbCnbJncNnbYnbKpaN%obGGncnbMnbNobYnaOOpaN!ncHncWqaN!ncP",
  "ncBHocndMncKP!odGnencFncVncTocHndDpcHncLncRncDndNncSocHncZocHncCncJndNncYncKncNGGndncMncNocYnaUoaN",
  "naHUpaNnaWUpaNnaPUnbBHobncMnbKP!ocGndnbFnbVnbTobHncDpbHnbLnbRnbDncNnbSobHnbZobHnbCnbJncNnbYnbK",
  "nbNGGncnbMnbNobYnaOoaNncNGnaHOpaNnaWOpaNnaPOnbBHobncMnbKP!ocGndqaNnaFOnbVnbTobHncDpbHnbLnbRnbDncN",
  "nbSobHnbZobHnbCnbJncNnbYnbKnbNGGncnbMnbNobYnaEoaNncNGnaHEpaNnaWEpaNnaPEnbBHobncMnbKPqaN$ocGndqaN",
  "naFEnbVnbTobHncDpbHnbLnbRnbDncNnbSobHnbZobHnbCnbJncNnbYnbKnbNGGraN!ncpaNnaMEnbNobYoaGnaLENGTHENER",
  "eaCOMMAeaFULL STOPeaQUESTION MARK&oaDOLE FAtbKtaSOO*gcMBOL FEEleKlcTIlaNII!lcBAlaFAAlcT$ldDmcOO",
  "lcKUlcTO$na-O!ldJeaDIGIT ZEROkaONEkaTWOlaHREEkaFOURlaIVEkaSIXlaEVENkaEIGHT*kcNI.gaLLABLE NDOLE MA",
  "taDO~A640aaCYRILLIC CAPITAL LETTER ZEMLYAjpSMAL!yaDZELOjoSMAL!yaREVERSED DZEjvSMAL(ybIOTjnSMAL",
  "(zaJERVjoSMAL!yaMONOGRAPH UKjvSMAL(ybBROAD OMEGjuSMAL!yaNEUTRAL YERjuSMAL!yeYERU WITH BACKjàSMAL",
  ":àaIFIED YATjvSMAL>æaYUjuSMAL%æaA%äaA!yaCLOSED LITTLE YUSjßSMAL!yeBLENDEDjuSMAL%yrIOTIFIED jèSMAL",
  "<zaN<xaN:æaTSEjvSMAL!ybSOFT DjqSMAL!âaELjqSMAL!ãaM!áaM!yaMONOCULAR OjuSMAL!yjBI!wjBI%ylDOUBLE ",
  "jàSMALjiLETTER MULTIbaOMBINING CYRILLIC VZMETtaTEN MILLIONS SIGNtoHUNDREDtpTHOUSAN",
  "aaSLAVONIC ASTERISK!taLETTER UKRAINIAN IEßaIßbYßaUßaHARD SIGNßaYERU!ßfSOFTßaOMEGAtbKAVYKtaPAYEROK",
  "!bo!bpjaCAPITAL LETTER DWEjmSMAL!zcZ!xcZ!ycZH!wcZH!ybCCHjnSMAL(ßbZ(ybZ!yaTE WITH MIDDLE HOOKjáSMAL",
  "*ycT*wcT!zcS!xcS!ßbS!ybS:ydT:wdT>yd>wd!ydS!wdS>zaOUBLE OjrSMAL!ycCROSSEDjsSMAL",
  "aaMODIFIER LETTER CYRILLIC HARD SIGNzfSOFTaaCOMBINING CYRILLIC LETTER EFßaIOTIFIED E",
  "aaBAMUM LETTER AnbKnaUnbKnaEEncRnbTAnaOnaNYInbnaLAnbPnaRIIpaEEncLEEneM,paAncNDoaJAEMnbnaSUUnbM",
  ",ncSHoboaHEUXod.ncKYoaETnaNUAEpa!odJnaYOQ*paU!obUoaAnbNSH.ndKndP*pbEocTnbPUncWnbPEncFnaRUnbLnaMI",
  "nbN.ndRoaAE<paNncNGKWApaGApbnaSHO=pbAnaFUoaOMnaWAnbNnaLInbPnaLOQnaKO;ncMBncRncMoaAnaTInbKnaMOoaBAA",
  "naTETnaKPA!paNnaNTUUnaSAMBAnaFAAMAE$ncKOVpaGHOMgaCOMBINING MARK KOQNDONvaTUKWENTISgaNJAEMLI",
  "gaFULL STOP%icLiaMMA!gfSEMIgaQUESTION MARK~A700aaMODIFIER LETTER CHINESE TONE YIN PINGãfANG!æcSHA",
  "ãgANG!æaQUãdANG!æbR!çbRqaEXTRA-HIGH DOTTED TONE BARquqqMIDqqLOW%wqLOW&çiLEFT-STEM qãqßMIDqßLOW",
  "%wßLOW&àsqx&us&us&ßsqeDOT VERTICALuaSLASH!ugHORIZONT&taER RIGHT CORNER ANGLEqaRAISED UP ARROW",
  "xgDOWNxaEXCLAMATION MARKxqINVERTED qßLOWqaSTRESS AND HIGH TONEàfLOW",
  "aaLATIN CAPITAL LETTER EGYPTOLOGICAL ALEFgàSMAL!éaIN!çaIN!vaHENGgnSMAL!vaTZ!taTZ!waRESILLOgrSMAL",
  "!veCUATRgsSMAL!ãa WITH COMMAgâSMALgaLETTER SMALL CAPITAL FàaS%vbA%tbA!waO!uaO!waU!uaU!waV!uaV",
  "!xa WITH HORIZONTAL BARgäSMAL!waY!uaY!vaREVERSED C WITH DOTgáSMAL!vaK WITH STROKEgwSMAL",
  "!ágDIAGONAL gäSMAL!ápSTROKE AND gïSMAL!vaBROKEN LgrSMAL*viL WITH HIGgàSMAL",
  "<vcO WITH LONG STROKE OVERLgèSMAL!ãaOPguSMAL!waO!uaO!vaP WITH STROKE THROUGH DESCENDERgíSMAL",
  "!áaFLOURISHgySMAL%âaQUIRREL TAILgâSMAL(vãQ(tãQ>vhQ WITH DIAGONALgäSMAL!vaR ROTUNDAgsSMAL!wiUM!uiUM",
  "(vvV(tvV!waY!uaY!waISIGOTHIC ZgvSMAL(vhTHORN WITHgßSMAL>vãTHORNgñSMAL(waENDgnSMAL!vaET!taET!vaIS",
  "!taIS!vaCONgmSMALaaMODIFIER LETTER US!taDUMtcLtcMtcNtcRgeLETTER SMALL CAPITAL!tcTtc;waNSULAR D",
  "gsSMAL!âaF!àaF!âaGvjTURNED gzSMAL!áaL!ßaL&âaR)àaR!âaS!àaS!âaT!àaT",
  "abMODIFIER LETTER LOW CIRCUMFLEX ACCENqaCOLONqbSHORT EQUALS SIG&vaSALTILLOgrSMAL;áaH",
  ")tbL WITH RETROFLEX HOOK AND BELgbLETTER SINOLOGICAL DO<vbN WITH DESCENDEgzSMAL!vbC WITH BAgtSMAL",
  "ßaPALATAL HOOKtsH+vbB WITH FLOURISgySMAL!vaF WITH STROKEgwSMAL!vbVOLAPUK AgtSMAL!âbO!àbO!âbU!àbU",
  "*vhG WITH OBLIQUEgãSMAL!vuK!tuK!vuN!tuN!vuR!tuR!vuS!tuS!vaH WITH HOOK&wbEVERSED OPEN vaSCRIPT G",
  "vaL WITH BELTvaSMALL CAPITAL IgaLETTER SMALL CAPITAL Q(vbTURNED áaTvaJ WITH CROSSED-TAILvaCHI",
  "vaBETAgnSMAL!vbOMEGgoSMAL>vhU WITHgwSMAL%vbGLOTTAL gsSMAL!âaI!àaI!âaU!àaU,waLD POLISH OgvSMAL",
  "!vaANGLICANA WguSMAL!vaC WITH PALATAL HOOKvfS WITH!vsZvaD WITH SHORT STROKE OVERLAYgéSMAL!vßS!tßS",
  "~A7D0)waLOSED INSULAR GgzSMAL~A7D3taDOUBLE THORN~A7D5ßbWYN%vaMIDDLE SCOTS SgxSMAL!vcSIGMOIDgsSMAL",
  "~A7F2aaMODIFIER LETTER CAPITAL CyaFyaQ&vaREVERSED HALF HgySMALgaEPIGRAPHIC LETTER SIDEWAYS I",
  "%yaH WITH STROKEqbSMALL LIGATURE O$gaLETTER SMALL CAPITAL TURNED M%yaREVERSED FæaPyaINVERTED M",
  "za LONGA!ycARCHAICaaSYLOTI NAGRI LETTER AuaInaSIGN DVISVARA!uaUuaEuaO%sbHASANT!ubKvbHubGvbH+sfANU",
  "!ubCvbHubJvbHubTTwbHubDDwbHubTvbHubDvbHubNubPvbHubBvbHubMubRubLubRRubSubHnaVOWEL SIGN AyaIyaUyaE",
  "yaOOnaPOETRY MARK-1za2za3za4naSIGN ALTERNATE HASANTA~A830aaNORTH INDIC FRACTION ONE QUARTERzaHALF",
  "vaTHREE QUARTERS!zaSIXTEENTHzcEIGH$àbSIXTEENTHmaQUARTER MARKmhPLACEHOLDmfRUPEE$pfNTITY",
  "~A840aaPHAGS-PA LETTER KArbHqbGqcNqbCrbHqbJqbNYqbTrbHqbDqbNqbPrbHqbBqbMqbTSsbHqbDZqbWqbZHrb",
  "qbSMALL qbYqbRqbL+qdrbqbHqbqaIqaUqaEqaOqaQAqbXqbFqbGGqaEEjaSUBJOINED LETTER WAßbY%qbTTsbHqbDDqbNN",
  "qbALTERNATE YqbVOICELESS SHvcD qbASPIRATED F+ßbRlmPERFIX$qaCANDRABINDUjaSINGLE HEAD MARKjmDOUB",
  "jaMARK SHADoeDOUBLE ~A880(acSAURASHTRA SIGN ANUSVAqbVISARGlbLETTER taAsaItaIsaUtaUsaVOCALIC RàaR",
  "ßaLàaLsaEtaEsaAIsaOtaOsaAUsaKAtbHsbGtbHsbNGsbCtbHsbJtbHsbNYsbTTubHsbDDubHsbNNsbTtbHsbDtbHsbNsbPtbH",
  "sbBtbHsbMsbYsbRsbLsbVsbSHtbStbsbHsbLLlaCONSONANT SIGN HAARUlaVOWEL SIGN AAwaIxaIwaUxaUwaVOCALIC R",
  "äaRãaLäaLwaExaEwaAIwaOxaOwaAUlaSIGN VIRAMAqaCANDRABINDU~A8CElaDANDAmeOUBLE DmaIGIT ZEROraONEraTWO",
  "saHREEraFOURsaIVEraSIXsaEVENraEIGHT*rcNI~A8E0,alCOMBINING DEVANAGARIàaONEàaTWOáaHREEàaFOURáaIVE",
  "àaSIXáaEVENàaEIGHT*àcNIvaLETTER AáaUáaKAábNábPábRáaVIvaSIGN AVAGRAHA",
  "aaDEVANAGARI SIGN SPACING CANDRABINDUqaCANDRABINDU VIRAMAqsDOUBLE !áaTWOâaHREEáaAVAGRAHAqbPUSHPIK",
  "laGAP FILLERlaCARETlaHEADSTROKE,raIDDHAMlbJAIN OlaLETTER AYldVOWEL SIGNaaKAYAH LI DIGIT ZEROpaONE",
  "paTWOqaHREEpaFOURqaIVEpaSIXqaEVENpaEIGHT*pcNIjaLETTER KArbHqbGqcNqbSrbHqbZqbNYqbTqcHqbNqbPrbHqbM",
  "qbDqbBqbRqbYqbLqbWqbTHqcqbVqbCqbqaOEqaIqaOOjaVOWEL UEpbpaUpaEEpaOjaTONE PLOPHUoaCALYAta PLOPHU",
  "jaSIGN CWIoaSHYAabREJANG LETTER KobGocNobTobDobNobPobBobMobCobJobNYobSobRobLobYobWobHobMBobNGGpbD",
  "pbYJobhaVOWEL SIGN IsaUsaEsaAIsaOsaAUsbEtaAhaCONSONANT SIGN NGxawaRwaH&ibIRAM~A95FhaSECTION MARK",
  "aaHANGUL CHOSEONG TIKEUT-MIEUMxaPIEUPxaSIOSxaCIEUCqaRIEUL-KIYEOKwgSSANGwaTIKEUTwgSSANGwaMIEUM",
  "waPIEUPwfSSANGwfKAPYEOUNwaSIOSwaCIEUCwaKHIEUKH.qhMIEUMwaTIKEUTwaSIOSqaPIEUP-SIOS-THIEUTHwbKHIEUK",
  "wbHIEU:qgSSANGSIOSqaIEUNG-RIEULwaHIEUHqgSSANGCIEUCvbTHIEUT(rgHIEUPH,qfHIEUH%vfYEORIN",
  "~A980aaJAVANESE SIGN PANYANGGAoaCECAKoaLAYARoaWIGNYANjaLETTER AqaI KAWIraraIqaUqaPA CEREK",
  "qaNGA LELETza RASWADIqaEqaAIqaOqaKAsa SASAKtaMURDAqbG!qhG+taqbC$qhCqbJ!qhNYqbJA MAHAPRAN!taqbTT",
  "$qlTTqbDD!qlDD)rhqbT!qhTqc&rlqcqbP&qhPqbB!qhBqbMqbYqbRsa AGUNGqaLAqbW)qhS;qlSsaqbH",
  "jaSIGN CECAK TELU*jdVOWEL SIGN TARvcOLOuaWULUya MELIKuaSUKUya MENDUT(wcLIuaDIRGA MUREuaPEPET",
  "jcCONSONANT SIGN KERyaPENGKALyaCAKRAjaPANGKONjbLEFT RERENGGAjlRIGH$laDA ANDAPoaMADYAoaLUHURoaWINDU",
  "oaPANGKAToaLINGSApaUNGSIoaADEGsa ADEGoaPISELEHjmTURNED ~A9CF<naRANGKEPjaDIGIT ZEROpaONEpaTWOqaHREE",
  "paFOURqaIVEpaSIXqaEVENpaEIGHT*pcNI~A9DE;oaTIRTA TUMETESoaISEN-ISENaaMYANMAR LETTER SHAN GHAucCucJ",
  "ubNNubBHiaSIGN SHAN SAWiaMODIFIER LETTER SHAN REDUPLICATION$pbTAI LAING NYzbFzbGßbHzbJßbHzbDDàbH",
  "zbNNiaTAI LAING DIGIT ZEROyaONEyaTWOzaHREEyaFOURzaIVEyaSIXzaEVENyaEIGHT*ycNI.zbLLzbDßbHzbBßbH",
  "~AA00abCHAM LETTER maImaUmaEmaAImaOmaKAnbHmbGnbHmaNGUEoaAmbCHobHmbJnbH(ncHoaAobJmbTnbHmbDnbH)ncnaA",
  "mbDDmbPnbPnbHmbBnbH*mcMnaAmbBBmbYmbRmbLmbVmbSSnbmbHfbVOWEL SIGN AqaIraIqbEqaUqaOEraqaAIraUqaUE",
  "faCONSONANT SIGN YAubRubLubW~AA40=maFINAL KsaGsbN%uaFINAL NG!saCHsaTsaNsaPsaYsaRsaLsaSS+ßaMßaH",
  "~AA50faDIGIT ZEROlaONElaTWOmaHREElaFOURmaIVElaSIXmaEVENlaEIGHT*lcNI~AA5CfaPUNCTUATION SPIRAL",
  "raDANDAseOUBLE DriTRIPabMYANMAR LETTER KHAMTI GwbCxbHwbJxbHwbNYwbTTybHwbDDybHxcwbNwbSwbHxbHwbF",
  "iaMODIFIER LETTER KHAMTI REDUPLICATION!wbXwbZwbRjaOGOGRAM KHAMTI OAYyaQNyaHM)ifSYMBOL AITON EXCLAM",
  "vaONEvaTWO)pdAITON$jdIGN PAO KAREN TnaTAI LAING TONE-2áa5>pcSHWE PALAUNG CácS",
  "aaTAI VIET LETTER LOW KOqdHIGH!vbH!wbH!wbH!xbH!ubG!vbG!ucN!vcN!ubC!vbC!vbH!wbH!ubS!vbS*vbY*wbY!ubD",
  "!vbD!ubT!vbT!vbH!wbH*vb*wb!ubB!vbB!ubP!vbP!vbH!wbH!ubF!vbF!ubM!vbM!ubY!vbY!ubR!vbR!ubL!vbL!ubV!vbV",
  "<uc<vc!ub!vbjaMAI KANGjaVOWEL AApaIpaUEqapaEpaO)oaHIT(qaApbUEqb*pcAqaYqaNqaMjaTONE MAI EKsaNUENG",
  "saTHO!scSO~AADBjaSYMBOL KONqaNUENGqaSAMqaHO HOIqcKOI KaaMEETEI MAYEK LETTER EuaOuaCHAubNYubTTwbH",
  "ubDDwbHubNNubSHvbSnaVOWEL SIGN IIyaUUyaAAIzaUzbAnaCHEIKHANnaAHANG KHUDAMoaNJI",
  "naSYLLABLE REPETITION MARKnqWORD(yaVISARGAobIRAM~AB01aaETHIOPIC SYLLABLE TTHUvaIvaAAvaEEwavaO",
  "~AB09(scDDvaIvaAAvaEEwavaO~AB11taZUuaIuaAAuaEEvauaO~AB20saCCHHAwaUwaIwaAAwaEExawaO~AB28saBBAuaUuaI",
  "uaAAuaEEvauaO~AB30<acLATIN SMALL LETTER BARRED ALPtbA REVERSED-SCHWtaBLACKLETTER E$ßaE",
  "taE WITH FLOURISHtaLENIS FtaSCRIPT G WITH CROSSED-TAILtaL WITH INVERTED LAZY S",
  "ßaDOUBLE MIDDLE TILDEßaMIDDLE RING%tsMtsNtsENG.äaOåa WITH STROKEtoOPENtbINVERTED O!tmTURNED OE",
  "çgHORIZONTAL àa OPEN-O$àm OPEN-OtaSTIRRUP RgaLETTER SMALL CAPITAL R WITH RIGHT LEG",
  "$tbR WITHOUT HANDL$tcDOUBLE;tsRttDOUBLE (ucCRIPTàa WITH RINGtaBASELINE ESHtaU WITH SHORT RIGHT LEG",
  "vuBAR uaI;ßaUI%ßaLEFT HOOKtaCHI*tfCHI WITH LOW RIGHTåaLEFT SERIF!tuXábNG LEFT LE",
  "ìa AND LOW RIGHT RINGíaWITH SERIF.tvYaaMODIFIER BREVE WITH INVERTED BREVEjaLETTER SMALL HENG",
  "waL WITH INVERTED LAZY SâaMIDDLE TILDEwaU WITH LEFT HOOK(taSAKHA YATtaIOTIFIED EtbOPEN OtaUO",
  "taINVERTED ALPHAabGREEK LETTER SMALL CAPITAL OMEG!taDZ DIGRAPH WITH RETROFLEX HOOKtáTS",
  "uaURNED R WITH MIDDLE TILDE,waTURNED WqaLEFT TACKqgRIGH~AB70aaCHEROKEE SMALL LETTER AwaEwaIwaOwaU",
  "waVwaGAwbKwaGExaIxaOxaUxaVwaHAxaExaIxaOxaUxaVwaLAxaExaIxaOxaUxaVwaMAxaExaIxaOxaUwaNAwcH!yaHxaExaI",
  "xaOxaUxaVwaQUAyaEyaIyaOyaUyaVwaSAxaxaExaIxaOxaUxaVwaDAwbTwaDEwbTwaDIwbTwaDOxaUxaVxaLAwcTyaEyaIyaO",
  "yaUyaVxaSAyaEyaIyaOyaUyaVwaWAxaExaIxaOxaUxaVwaYAaaMEETEI MAYEK LETTER KOKuaSAMuaLAIuaMITuaPAubN",
  "uaCHILucTuaKHOUucNGucTH+ucWuaYANGuaHUKuaUNuaI=ucPHuaATIYAuaGOK$udJ+ucRuaBA=ucJucD<udGudD)udB",
  "ubKOK LONSUuhLAIuhMITuhPAuiNuhTILuhNGOUuhInaVOWEL SIGN ONAPydIydAydYEydSOUyeydCHEIyaNUNGnaCHEIKHEI",
  "naLUM IYEKnfAPUN~ABF0naDIGIT ZEROtaONEtaTWOuaHREEtaFOURuaIVEtaSIXuaEVENtaEIGHT*tcNI",
  "~D7B0aaHANGUL JUNGSEONG O-YEOtaO-IraYO-AvaEuaEO&reUtaI-I%sdUuaO)rcEUuaEOvauaOrcI-YAvaEuaEOva>reI",
  "$ubuaUtaI:rcARAEAxaE~D7CBiaONGSEONG NIEUN-RIEULxaCHIEUCHraSSANGTIKEUTáa-PIEUPrmyaSIOSáa-KIYEOK",
  "yaCIEUCzaHIEUCHybTHIEUT%rgRIEUL-SSANGxaKIYEOK-HIEUH+waRIEUL-KHIEUKH!xgMIEUMxaPIEUP-TIKEUTâaPHIEUPH",
  "xaYESIEUNG%xgYEORINHIEUHraKAPYEOUNRIEULraMIEUM-NIEUNxfSSANG+waMIEUM!xaPIEUP-SIOSxaCIEUC,rm",
  ",riPIEUP-RIEULxaMIEUM(waPIEUP%xgSIOS-xaCIEUCyaHIEUCH&rgSIOSwaKAPYEOUNPIEUP(waSIOS-KIYEOK(rlSSANG",
  "$waPANSIOSwaCIEUC)riSIOSwbTHIEUTwbHIEU*rfPANSIOS-+rsPAN.rgYESIEUNGßaHIEUH%rgCIEUCxfSSANG,sfSANG",
  ":rePHIEUPH-zaTHIEUTH~FB00aaLATIN SMALL LIGATURE FFwaIwaLwaFIxaLvaLONG S TvbS",
  "~FB13aaARMENIAN SMALL LIGATURE MEN NOWáaECHáaINI$yeVEW$ábXE~FB1DaaHEBREW LETTER YOD WITH HIRIQ",
  "haPOINT JUDEO-SPANISH VARIKAhaLIGATURE YIDDISH YOD YOD PATAH$oaALTERNATIVE AYINoaWIDE ALEFtaDALET",
  "taHEtaKAFtaLAMEDtaFINAL MEMtaRESHtaTAV+ßbPLUS SIGoaSHIN WITH SHIN DOTzg!yiDAGESH AND ég",
  "&qaEF WITH PATAHyaQAMATSyaMAPIQ,odBET WITH DAGomGIMEL!ooDAL%olHE!omVAVomZAYIN~FB38%ooTomYOD",
  "omFINAL KAFopomLAMED~FB3EomMEM~FB40omNUNomSAMEKH~FB43(umPEoo~FB46omTSADIomQOFomRESH<ooSH>ooT",
  "oaVAV WITH HOLAMoaBET WITH RAFEokKAFokPEiaIGATURE ALEF LAMED",
  "aaARABIC LETTER ALEF WASLA ISOLATED FORMzfFINAL!ooBEEHtfFINALthINITItiMED%oqP%onP%opP%ooP*qqH*qnH",
  "*qpH*qoH%osTT%opTT%orTTviMED%ps%pp%pr%pq*so*sl*sn*sm%oqV%onV%opV%ooV:osP:opP:orP:oqP%oqDY%onDY",
  "%opDYtiMED%orN%ooN%oqN%opN:orTC:ooTC:oqTCuiMED%toEH%tlEH%tnEHwiMED>poDAHALvfFINAL!ps!pp!ppU!pmU(rp",
  "(rm:oqJ:onJ!oqRR!onRR>osK>opK>orK>oqK%ooGAF%olGAF%onGAFsiMED*oqGU*onGU*opGUtiMED%oqNGO%onNGO%opNGO",
  "uiMED%poOON GHUNNAßfFINAL!ooRNOONufFINALuhINITIuiMED%ooHEH WITH YEH ABOVEæfFINAL!soGOALxfFINAL",
  "xhINITIxiMED(spDOACHASHMEãfFINALãhINITIãiMED%oqYEH BARRzfFINAL!znWITH HAMZA ABOVE ïfFINAL",
  "haSYMBOL DOT ABOVEsaBELOW!ogTWO DOTSxaBELOW!plHREEzaBELOW!zfPOINTING DOWNWARDS ñaBELOW%olFOUR",
  "yaBELOW+qgUBLE VERTICAL BAR+xfVERTICALLY çaBELOWoaRING$ogSMALL TAHyaBELOW!ogWASLA",
  "~FBD3haLETTER NG ISOLATED FORMrfFINALrhINITIriMED%ooU%olU!ooOE!olOE%opY%omY%opU WITH HAMZA ABOVoq",
  "&omV)oqKIRGHIZ zfFINAL!woYU!wlYU%op%omqhINITIqiMED!onUIGHUR KAZAKH KIRGHIZ ALEF MAKSURAöiMED",
  "(ioIGATURE YEH WITH HAMZA ABOVE WITH ALEFôfFINAL!ðoE!ðlE!ïoWAW!ïlWAW!ïoU!ïlU(ïpO(ïmO%ïpY%ïmY%ïp%ïm",
  "ñhINITI$qoUIGHUR KIRGHIZ YEH WITH HAMZA ABOVE WITH ALEF MAKSURAÿfLEF MAKSURA FINAL",
  "ÿhLEF MAKSURA INITI$ioETTER FARSI YEHyfFINALyhINITIyiMED,ïoJEEMïoHAH!ïrM,qùïoYEH&qyBEHzoHAHzrK$zrM",
  "(qåBEHzoYEH(qßT(qzTzrK$zrM(qçT(qzT(rßHßrM%rçH%rzH+qxJEEMßoMEEM(qzHAzrM!qàKßoHAH!ßrM$qySEENßoHAHßrK",
  "$ßrM$rxAD!ryAD(qyDAD$qzDzrK$zrM:qzT:qßTqßZ;qzAIzrM!qàGHàrM!qyFEHzoHAHzrK$zrMzoALEF MAKSURAzoYEH",
  "&qxQAFzoMEEM%qåQAFzoYEHqoKAF WITH ALEFzoJEEM(qzKzrKzoLAM%zrM*qçK*qzK)qyLAMzoHAHzrK$zrM(qåLAMzoYEH",
  "(qzMEEßoHAHßrK$ßrM(qæMEEßoYEH(qyNOONßoHAHßrK$ßrM(qåNOONßoYEH(qyHEHzrM%qåHEHzoYEH%qßYzoHAHzrK$zrM",
  "(qçY(qzYqoTHAL WITH SUPERSCRIPT ALEFqéREHqéALEF MAKSURAqoSHADDA WITH DAMMATANásKASRáoFATHA$æo$æo",
  "(qêSHADD<àfMZA ABOVE WITH REH FINALïlZAINïlMEEMïlNOONïlALEF MAKSURA&ïnY(quBEHzlZAINzlMEEMzlNOON",
  "(qâBEH&znY(qwT(qxT(qxT(qxT(qäT&znY(rwH(rxH(rxH(rxH(räH(rwH!qäF!qwF!qâQAFzlYEHqlKAF WITH ALEFzlLAM",
  "zmMEE&qäK&qwK$qvLAM$qâLAMzlYEH*qvMEEM%qwMEE$qnNOON WITH RßlZAINßlMEEMßlNOON*qâNOON&ßnY",
  "*qqALEF MAKSURA WITH SUPERSCRIPT)quYEHzlZAINzlMEEMzlNOON)qâYEH&znYzhHAMZA ABOVE WITH JEEM INITI",
  "ïnHAHïqK$ïqM$ðoE&qxBEHznHAHzqK$zqMznHEH&qzT&qyTzqK$zqM&qyT!rzH&qwJEEMßnMEEM*qyHAzqM!qßKßqM!qxSEEN",
  "ßnHAHßqK$ßqM$rwADzqK$rxAD)qxDAD%qyDzqK$zqM$qwTAH;qzZ;qyAIzqM!qßGHàqM!qxFEHznHAHzqK$zqM$qwQAFznMEEM",
  "(qxKAF$qyKzqKznLAM%zqM&qxLAMznHAHzqK$zqMznHEH&qyMEEßnHAHßqK$ßqM%qxNOONßnHAHßqK$ßqM$àoE&qxHEHzqM",
  "znSUPERSCRIPT ALEF$qzYznHAHzqK$zqMznHEHßiAMZA ABOVE WITH MEEM MEDïmHEH!qwBEHzmHEH!qyT!qxT!ryH!rxH",
  "!qwSEENßmHEH!rzH!ryHqmKAF WITH LAMznMEEqwLAMqwNOONßmHEH.qyY.qxY*smADDA WITH FATHAánDAMMánKASR",
  "qfTAH WITH ALEF MAKSURA ISOLATEDzoYEH!qåAINzoYEH!qèGHàoYEH!qæSEEßoYEH!rèH!rßH,qçH,qzH!qåJEEMßoYEH",
  "%qèK%qßK*råADzoYEH!qçD!qzD.àoJEEMàoHAHàrK$àrM=àqRrßrxADqzDqfTAH WITH ALEF MAKSURA FINALzlYEH!qâAIN",
  "zlYEH!qåGH!qxGH!qãSEEßlYEH!råH!rxH,qäH,qwH!qâJEEMßlYEH%qåK%qxK*râADzlYEH!qäD!qwD.àlJEEMàlHAHàoK",
  "$àoM=ànRrxruADqwD*åhINITIànHAHàqK$àqM)ßhHEH INITIrzH$qxTAH$ßiJEEM MEDßmHAHßpK$rzH$ryHàpK)ãiMEDqyZ",
  ">qlALEF WITH FATHATANèfISOLATEDaaORNATE LEFT PARENTHESIShnRIGH$qaRAHIMAHU ALLAAHsbDI ALLAAHU AN",
  "åaAAåaUMçaAAæbNNqaSALLALLAAHU ALAYHI WA-AALIH,sbAYHI AS-SALAAwkMxkAAwj AS-SALAATU W.qcQUDDISA SIRR",
  "(yaHU ALAYHI WAAALIHEE WA-SALLAM%vm,qcTABAARAKA WA-TAAAL=yhMqaTEH WITH JEEM WITH MEEM INITIAL FORM",
  "zhHAH WITH JEEM FINìhINITIçqMzßK$zxMEEMènHAHèqK)qlJEEM WITH MEEM WITH HAHíhINITI",
  "!qmHAH WITH MEEM WITH YEèlALEF MAKSURA,qåSEEN%qzSEEN WITH J$qåSEEN WITH J)qãSEEN$ßzMénJEEM$élMEEM",
  "!éqM&ruAD WITH HAHëhINITI%räADrvHEEN WITH HAHîhINITI=qxSHEEN WITH JàmMEEM WITH KHAïhINITI,rçH,réH",
  ">qâDAD WITH HAH*qyDAD WITH KíhINITI;quTAH WITH MEEMìhINITIènMEEM$èmYE+qyAIN WITH JzyM,qçAI",
  "!èlALEF MAKSURA$qçGHêlYEH$qïGH;qäFEH;qæFEH;qãQAFèlMEEM%qyLAM WITH çlYEHçlALEF MAKSURA",
  "zhJEEM WITH JEEM INITIíhFIN&zyK+qæLAM+qãLAMìhINITI(qxMEEM WITH HAHèqM,qãMEE%qzMEEM WITH JénMEEM",
  "&ßßKéqM~FD92%éqK<qßHEH WITH MèqM+qåNOONèhALEF MAKSURA FINßlJEEM WITH MEEMîhINITI$ßâJEEM",
  "ßlMEEM WITH YEH!ßåM&qyYEH WITH M+qèY%quBEH WITH KHAH&qxTEH WITH J)qìTEH$qåT!zâKHAH%zxM%zåM!qãJEEM",
  ">qëJEEMßâMEEM(qìSEEN*qxSAD WITH râHEEN!qäD;qãLAMzxM$qâYEH>qåYzxM:qæMqãQAF+qãNOO!èhHAH INITI",
  "*zhHAH WITH MEEM INITI%qãAIN&qåK%qzNOON WITH J*ßuKHAH&zxJEEM%èlMEEM!íhFIN&íhFIN.qâJEEM>qäHA=ßxJ",
  ",qãFEH%qâBEH*íhINITI,qæAIN!qæSAD;qãSEEN,émYE~FDCF$saLAAMUHU ALAYNAA",
  "~FDF0%sfLLA USED AS KORANIC STOP SIGN ISOLATEDqïQAqoALLAHroKBARqoMOHAMMAD&toAMqoRASOUL&soAYHE",
  "$qrWASAL+wnvbLLAHOU ALAYHE WASALLAqaJALLAJALALOUHOUaaRIAL SIGN$qbBISMILLAH AR-RAHMAN AR-RAHEE",
  "=rcUBHAANAHU WA TAAALqaAZZA WA JALLaaVARIATION SELECTOR-1ta2ta3ta4ta5ta6ta7ta8ta9ta10ua1ua2ua3ua4",
  "ua5ua6aaPRESENTATION FORM FOR VERTICAL COMMAäfIDEOGRAPHIC ðaFULL STOP$æaLONäfSEMI",
  "äaEXCLAMATION MARKäjQUESäaLEFT WHITE LENTICULAR BRACKETäcRIGHT WHITE LENTICULAR BRAKC",
  "äaHORIZONTAL ELLIPSIS~FE20aaCOMBINING LIGATURE LEFT HALFtgRIGH!klDOUBLE TILDxgRIGH!kkMACRONrgRIGH",
  "kaCONJOINING MACRON)áa BELOWtmRIGH!krTILDqmRIGH!kqMACRONrmRIGH)àa BELOW,kkCYRILLIC TITLOzgRIGH",
  "aaPRESENTATION FORM FOR VERTICAL TWO DOT LEADERäaEM DASHåfNäaLOW LINEäiWAVY äaLEFT PARENTHESIS",
  "änRIGH!éaCURLY BRACKETäpRIGH!éiTORTOISE SHELLäyRIGH!éiBLACK LENTICULARäßRIGH!éiDOUBLE ANGLEäwRIGH",
  "!én!ên(éjCORNEäqRIGH!éoWHITE äwRIGHabSESAME DOakWHITE *éjSQUARäqRIGHaaDASHED OVERLINEajCENTRELINE",
  "ajWAVYanDOUBLE %heLOW %leLOW ajWAVYaaSMALL COMMAgfIDEOGRAPHIC gaFULL STOP~FE54gaSEMICOLONgf",
  "gaQUESTION MARKgjEXCLAMAhaM DASHgaLEFT PARENTHESISgnRIGH!laCURLY BRACKETgpRIGH!liTORTOISE SHELL",
  "gyRIGHgaNUMBER SIGNgaAMPERSANDhaSTERISK$gfPLUSgaHYPHEN-MINUS!gfLESS-THANgkGREATERgfEQUALS",
  "~FE68%gcREVERSE SOLID+ggDOLLAgfPERCENTgaCOMMERCIAL AT~FE70aaARABIC FATHATAN ISOLATED FORM",
  "haTATWEEL WITH FATHATAN ABOVE!hsDAMM!jaIL FRAGMENT!hsKASR~FE76&monfMEDIAL&mo!hnDAMM&mo!hnKASR",
  "!hpSHADDofMEDIAL!ioUKUN!imUKUN%hpLETTER HAMZooALEF WITH MADDA ABOVEéfFINAL!yvHAMZ!ysHAMZ!oäWAW",
  "!oáWAW%ãoBELOWéfFINAL%oäYEH%oáYEHèhINITIèiMED(tn(tk!ooBEH!olBEH(onBEHsiMED%ooTEH MARBUTAßfFINAL!sn",
  "!sk(opT(ooT%pqH%pnH%ppH%poH%ooJEEMtfFINALthINITItiMED*opHA*omHA*ooHAsiMED%orK%ooK%oqK%opK%ooDAL",
  "%olDAL!oqTH!onTH*opRE*omRE!ooZAINtfFINAL!opSEE!omSEEthINITItiMED%prH%poH%pqH%ppH%poAD%plAD%pnAD",
  "siMED%oqD%onD%opD%ooD%ooTAH%olTAH%onTAHsiMED%oqZ%onZ%opZ%ooZ%ooAIN%olAIN%onAINsiMED%orGH%ooGH%oqGH",
  "uiMED:opFE:omFE:ooFEsiMED%ooQAF%olQAF%onQAFsiMED%oqK%onK%opK%ooK%ooLAM%olLAM%onLAMsiMED%opMEE",
  "%omMEE%ooMEEtiMED%ooNOONtfFINALthINITItiMED%ooHEH%olHEH%onHEHsiMED%ooWAW%olWAW!ooALEF MAKSURA",
  "àfFINAL*oqY*onY*opY*ooY%ioIGATURE LAM WITH ALEF WITH MADDA ABOVEôfFINAL!èvHAMZôfFINAL!îoBELOW",
  "ôfFINAL!ãn!ãk~FEFFaaZERO WIDTH NO-BREAK SPACE~FF01aaFULLWIDTH EXCLAMATION MARKkkQUOTkaNUMBER SIGN",
  "kgDOLLAkfPERCENTkaAMPERSANDlaPOSTROPHEkaLEFT PARENTHESISknRIGHkaASTERISK(lfLUSkaCOMMA",
  "kaHYPHEN-MINUSkaFULL STOP!kcSOLIDkaDIGIT ZEROqaONEqaTWOraHREEqaFOURraIVEqaSIXraEVENqaEIGHT*qcNI",
  "<maLONkfSEMIkbLESS-THAN SIGkfEQUALS!kkGREATERkaQUESTION MARK(maMMERCIAL ATkaLATIN CAPITAL LETTER A",
  "äaBäaCäaDäaEäaFäaGäaHäaIäaJäaKäaLäaMäaNäaOäaPäaQäaRäaSäaTäaUäaVäaWäaXäaYäaZlaEFT SQUARE BRACKET",
  "kaREVERSE SOLIDUS!kqRIGHkbCIRCUMFLEX ACCENkaLOW LINE!khGRAVE)qaSMALL LETTER AâaBâaCâaDâaEâaFâaGâaH",
  "âaIâaJâaKâaLâaMâaNâaOâaPâaQâaRâaSâaTâaUâaVâaWâaXâaYâaZlaEFT CURLY BRACKETkaVERTICAL LINE!kpRIGH",
  "kaTILDE%paWHITE PARENTHESISktRIGHaaHALFWIDTH IDEOGRAPHIC FULL STOPkaLEFT CORNER BRACKETkqRIGH",
  "$waCOMMAkaKATAKANA MIDDLE DOTtaLETTER WOßaSMALL AåaIåaUåaEåaOåaYAæaUæaOåaTU",
  "sa-HIRAGANA PROLONGED SOUND MARK&ßbßaIßaUßaEßaOßaKAàaIàaUàaEàaO=àbàaIàaUàaEàaOßaTAàaIàaUàaEàaOßaNA",
  "àaIàaUàaEàaOßaHAàaIàaUàaEàaOßaMAàaIàaUàaEàaOßaYAàaUàaOßaRAàaIàaUàaEàaOßaWAßaNtaVOICED SOUND MARK",
  "trSEMI-kaHANGUL FILLERraLETTER KIYEOKygSSANG!ãa-SIOSyaNIEUNâa-CIEUCãaHIEUHyaTIKEUTygSSANGyaRIEUL",
  "*ygRIEUL-ãaMIEUMãaPIEUPãaSIOSãaTHIEUTHãbPHIEUPãbHIEU(yf(yfyfSSANG)yfPIEUPyezdSANGSyaIEUNGyaCIEUC",
  "yfSSANGyaCHIEUCHybKHIEUK<yh<yh<yf~FFC2yaAzaEyaYAßaEyaEOza~FFCA!ycYßayaOyaWAßaEybO~FFD2(zbyaU*ycWßa",
  "zaIyaYU~FFDAybEyaYIyb~FFE0aaFULLWIDTH CENT SIGNkfPOUNDkfNOTkbMACROkaBROKEN BAR$kfYENkgWO",
  "~FFE8*kaFORMS LIGHT VERTICALkaLEFTWARDS ARROWklUPklRIGHTklDOWNkaBLACK SQUAREkbWHITE CIRCL",
  "~FFF9aaINTERLINEAR ANNOTATION ANCHORxcSEPARATxeTERMINabOBJECT REPLACEMENT CHARACTEav"]

end Conductor.CharName
