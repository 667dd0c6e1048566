/-! The names of letters of ancient and minority scripts. -/

namespace Conductor.CharName

def ancients : List String := [
  "~10000aaLINEAR B SYLLABLE B008 Aua38 Eua28 Iua61 Oua10 U&vb1 Dua45 DEua07 DIua14 DOua51 DUva7 JA",
  "&vb6 J~1000Dua36 JOua65 JUua77 KA%vb4 Kua67 KIua70 KOua81 KUva0 MAua13 MEua73 MI<vb5 Mua23 MU",
  "ua06 NAua24 NEua30 NIua52 NOva5 NU&vb3 Pua72 PE&vb9 P,vb1 P&vb0 Pua16 QA&vb8 Qua21 QIua32 QO",
  "~10028ua60 RA<vb7 Rua53 RIua02 ROua26 RUua31 SAua09 SEua41 SI<vb2 S<vb8 Sva9 TA&vb4 Tua37 TI,vb5 T",
  "ua69 TU&vb4 Wua75 WE,vb0 Wva2 WO~1003Cua17 ZA%vb4 Z~1003Fua20 ZOva5 A2ua43 A3ua85 AU+vc1 D*uc90 D",
  ":uc48 N(vb9 PUua62 PTE*uc76 R*uc33 Rua68 RO2vb6 TA+uc87 T+vc1 T~10050laMBOL B018ta9sa22sa34sa47ta9",
  "sa56sa63ta4sa79sa82ta3ta6ta9~10080jaIDEOGRAM B100 MANvd2 WOva4 DEERva5 EQUIDwaF MAREwaM STALLION",
  "va6F EWEwaM RAMva7F SHE-GOATwhM va8F SOWwaM BOAR!vc9F CwaM BULL&uc20 WHEva1 BARLEYva2 OLIVE",
  "vb3 SPICva5 CYPERUSjaMONOGRAM B127 KAPOvb8 KANAK*ub30 OIva1 WINEva2%ua33 AREPAva5 MERI%ub40 BRONZ",
  "va1 GOLDva2va5 WOOLva6ua50va1 HORNva2va3va4.ua56 TURO2!va7va8va9 CLOTHua60va1va2 GARMENTva3 ARMOUR",
  "va4va5va6va7va8va9ua70va1va2va3 MONTHva4va6 TREEva7va8va9ua80va1va2va3va4va5va9ua90va1 HELMET",
  "ta220 FOOTSTOOLva5 BATHTUBua30 SPEARva1 ARROWva2va3 SWORDva4va6ua40 WHEELED CHARIOTvi1",
  "va2 CHARIOT FRAMEva3 WHEELva5va6jaMONOGRAM B247 DIPTE!va8va9ua51va2va3va4 DARTva5va6va7va8va9",
  "&scVESSEL B1ßa200áa1áa2áa3áa4áa5áa6áa7áa8áa9àa10áa1áa2áa3áa4áa5áa6áa7áa8áa9àa21áa2áa6áa7áa8áa9àa50",
  "ßa305~10100aaAEGEAN WORD SEPARATOR LINEwaDOThaCHECK MARK~10107$hcNUMBER OoaTWOpaHREEoaFOURpaIVE",
  "oaSIXpaEVENoaEIGHT*ocNI$ocTpaWENTYpcHIRodFOpcIFocSIX+taTY+taY+saTYoaONE HUNDREDoiTWOpiHREEoiFOUR",
  "piIVEoiSIXpiEVENoiEIGHT*okNI+sbTHOUSANojTWOpjHREEojFOURpjIVEojSIXpjEVENojEIGHT*olNI$olTpjWENTY",
  "plHIRomFOplIFolSIX+tjTY+tjY+sjTY~10137haWEIGHT BASE UNIToeFIRST SUBoiSECONDojTHIRoiFOURTH",
  "%hoDRY MEASUREhwLIQUID&hpMEASUREpjTHIRaaGREEK ACROPHONIC ATTIC ONE QUARTERàaHALFàaDRACHMAxaFIVE",
  "zaFTYzaVE HUNDREDábTHOUSANzjFTY!âaALENTSxiTEN!ziFTYxiONE HUNDREDxrFIV!àjTHOUSANxsFIVábSTATERxiTEN",
  "!ziFTY)èbSTATERxrFIV)ébSTATERxrTENxrFIFTY!àbMNAraHERAEUM ONE PLETHRONraTHESPIAN ONErhHERMION",
  "raEPIDAUREAN TWO$ßaTWO(rcCYRENAIC TWO DRACHMrnEPIDAUREAN(sbROEZENIAN FIVáaTENäa ALTERNATE FORM",
  "*áaTENriMESSE*àaENàaHIRTY)ãaFTY(ápFIFTY!rkHERMIOrjTHESPßaONE HUNDREDßjTHRErjEPIDAUREAN FIV",
  "rpTROEZENIsqHESPrqCARYSTrqNAX)ãbTHOUSANßkFIVraDELPHIC FIVE MNASrfSTRATIAN FIFTYgaONE HALF SIGN",
  "=gpONE HALF SIGN!gfTWO THIRDShgHREE QUARTERgfYEARgfTALENTgfDRACHMAgfOBOL(kgOBOLhlHREEglFOURhlIVE",
  "ggMETRETEgfKYATHOS BASEgfLITRAggOUNKI%giXESgfARTABEifOURAggGRAMM)gkTRYBLIONgfZEROgfONE QUARTER",
  "gfSINUSOIDgfINDICTION(ahNOMIS~10190afROMAN SEXTANSgfUNCIAgkSEMigXTULgmDIMIDIA ggSILIQUgfDENARIUS",
  "glQUIgiSESTERTgiDUPONDggAgfCENTURIALaaASCIA SYMBOL~101A0>haYMBOL TAU RHO",
  "~101D0aaPHAISTOS DISC SIGN PEDESTRIANuaLUMED HEADthTATTOOtaCAPTIVEuaHILD&tcWOMtaHELMETtcGAUNTL",
  "taTIARAtaARROWtcB)tcSHIEtaCLUBtaMANACLESvaTTOCKtaSAWtaLID)vaOMERANG=vbRPENTRY PLANtaDOLIUM*ubOM",
  "%tcSLI!vaLUMNtaBEEHIVE;waPtaHORNuaIDE,ubULLS LE,vaTtaRAMtaEAGLEtbDOVtaTUNNY,watcPLANE TRtbVIN",
  "taPAPYRUStaROSETTEtaLILYtaOX BACK$tcFLUtaGRATERtcSTRAINuaMALL AXEtaWAVY BAND",
  "taCOMBINING OBLIQUE STROKE~10280aaLYCIAN LETTER AoaEoaBpaHoaGoaDoaIoaWoaZoaTHoaJoaKoaQoaLoaMoaN",
  "oaMMoaNNoaUoaPoaKKoaRoaSoaTpaToaANobEoaHoaX~102A0aaCARIAN LETTER AoaP2oaDoaLoaUUUoaRoaLDoaA2oaQoaB",
  "oaMoaOoaD2oaToaSHqa2paoaC-18oaUoaNNoaXoaNoaTT2oaPoaSSoaIoaEoaUUUUoaKpa2oaND%qaoaGpa2oaSTqa2oaNG",
  "oaIIoaC-39oaTT;ra2oaRRoaMBqa2qa3qa4oaLD2obE*ra3~102E0baOPTIC EPACT THOUSANDS MARKnaDIGIT ONEtaTWO",
  "uaHREEtaFOURuaIVEtaSIXuaEVENtaEIGHT*tcNI$ncNUMBER TvaWENTYvcHIRudFOvcIFucSIXvcEVENucEIGHucNINE",
  "uaONE HUNDREDuiTWOviHREEuiFOURviIVEuiSIXviEVENuiEIGHT*ukNI~10300aaOLD ITALIC LETTER AsaBEsbKsbDsb",
  "sbVsbZsbHscTsaIsaKAsaELtaMtaNtaSHsaOsaPEsbSHsaKUsaERtaS;tbsaU$tbK)scPscKsaEFtaRS$scCsaIIsaUU%tbS",
  "laNUMERAL ONEtbFIVtaTEN!vaFTY~1032D*sbYsbNORTHERN TSsjSOUaaGOTHIC LETTER AHSAoaBAIRKANoaGIBAoaDAGS",
  "obAIHVUoaQAIRTHRAobIUJoaHAGLoaTHIUTHoaEISoaKUSMA)ocLAGoaMANNAoaNAUTHSoaJER%ocUR.ohPoaNINETYoaRAIDA",
  "oaSAUILoaTEIWS=ocWINoaFAIHU$ocIGGoaHWAIRoaOTHAL+sa HUNDRED~10350aaOLD PERMIC LETTER ANsaBURsaGAI",
  "sbDOsaE!scZHseDsaZATAscDZIsaIsaKOKEsaLEIsaMENOEseN*scVOsbPEEscRsbSIsbTAsaUsaCHERY)sdSHudCH$scY",
  "taERUsaOtaOsaEFsaHAsaTSIUsaVERscYvaItaATsaIE.tbtaAsbIaaCOMBINING OLD PERMIC LETTER ANáaDOIáaZATA",
  "áaNENOEáaSII~10380aaUGARITIC LETTER ALPAqbBETqbGAMLqbKHqbDELTqaHOqbW(qdZqcHOqaTETqaYODqaKAFqaSHIN",
  "qaLAMDAqaMEMqaDHALqaNUNqaZUqaSAMKA)qcAqaPU$saDEqaQOPAqbRASHqbTHANN(qdGHqaTOqaIqaUqbSS",
  "~1039FjaWORD DIVIDERaaOLD PERSIAN SIGN AraIraUraKAsaUraGAsaUraXArbCrbJsaIraTAsaUraDAsaIsaU&sbHrbP",
  "rbBrbFrbNsaUraMAsaIsaUraYArbVsaIraRAsaUraLArbSrbZrbSHsbSrbH~103C8rbAURAMAZDAàa-2àaHArbXSHAAYATHIY",
  "raDAHYAAUSHßa-2raBAGAsaUUMISHmaWORD DIVIDERmaNUMBER ONEtaTWOuaENuaWENTYtaHUNDRED",
  "~10400aaDESERET CAPITAL LETTER LONG IáaEáaAâaHáaOâaO(xcSHORTâaEâaAãaHâaOãaOxaAYxaOWxaWUxaYEExaH",
  "!xcPxcBxcTxcDxcCHxcJ.xcKxcGxaEF%xcVxaETH)xdTxaES!xcZ!zaH!ycHxaERyaLyaMyaNzaGxaOIxaEW",
  "iaSMALL LETTER LONG IßaEßaAàaHßaOàaO(vcSHORTàaEàaAáaHàaOáaOvaAYvaOWvaWUvaYEEvaH!vcPvcBvcTvcDvcCH",
  "vcJ.vcKvcGvaEF%vcVvaETH)vdTvaES!vcZ!xaH!wcHvaERwaLwaMwaNxaGvaOIvaEWaaSHAVIAN LETTER PEEPpaTOT",
  "paKICKpaFEEpaTHIGHpaSOqaUREpaCHURCHpaYEApaHUNGpaBIBpaDEADpaGAGpaVOW,raEYpaZOO,peMEApbJUDGpbWO",
  "paHA-HApaLOLL&qbIMpaIFpaEGGpaASHqaDOpaON+raOLpaOUT&qbpaROARpaNUNpaEAT>pcApbICpaUPpaOAKqaOZEqaIL",
  "(qbWqbRpaORpbAIpbER%raRAY!qbApaIANpaYEWaaOSMANYA LETTER ALEFpaBApbTpbJpbXpbKHpaDEELpaRApbSqaHIIN",
  "&pcDpaCAYNpaGApbFpaQAAFpdKpaLAAN*pdMpbNUUpaWAW,pcpbYpbpaEpaIpaOpaUpaAApaEEpaOO~104A0ibDIGIT ZER",
  "oaONEoaTWOpaHREEoaFOURpaIVEoaSIXpaEVENoaEIGHT*ocNI~104B0caAGE CAPITAL LETTER AwaIxaNwaHvaBRAvbCH",
  "vdEHwawaIN$vcwbYvaIvaKAvcEHvbKYvbLvbMvbNvaOwaINvaPAvcEHvbSwbHvbTvcEHvbTSvdEH!xbHvcDvaUvaWAvbKHvcG",
  "vbZwbH~104D8gbSMALL LETTER uaIvaNuaHtaBRAtbCHtdEHuauaIN$tcubYtaItaKAtcEHtbKYtbLtbMtbNtaOuaINtaPA",
  "tcEHtbSubHtbTtcEHtbTStdEH!vbHtcDtaUtaWAtbKHtcGtbZubH~10500abELBASAN LETTER paBEpbCqbHpbDpcNpbDH",
  "paEIqapbFpbGqbJpbHpaI$pcpbKpbLqbLpbMpbNqaAqaJEpaOpaPEpbQpbRqbRpbSqbHpbTqbHpaUpaVEpbXpaYpaZEqbHpcG",
  "raAMMA!pcK~10530aaCAUCASIAN ALBANIAN LETTER ALTßbBEßaGIMßaDATßaEBßaZARLßaEYN!àbHIßaTASßaCHAßaYOWD",
  "!ßcZßaIRB!ßcSßaLANßaINYA,ßdXßbDYAßaCARßaJHOX!ßcKßaLYITßbHEYßaQAYßaAOR>áaOYáaIàaYAYßaMAQ(áaRßaNOWC",
  "%ßdDZßaSHAKßaJAYNßbO%ßdTßaFAM(ác:áaATßaPENßaGHEYS$ßcR,àbEYßaVEYZßaTIWR;áaOYßaIWNßaCYAW=ßdCßaYAYD",
  "(ßdPßaKIW~1056FtaCITATION MARKaaVITHKUQI CAPITAL LETTER AyaBBEzbybCzbHybDzbHyaEIzaybFyaGA~1057CybH",
  "zbHyaIzaJEycyaKAybLzbLyaMEybNzbJyaOyaPEyaQAyaRE~1058CybSzbHybTzbHyaUyaVEybX~10594yaYyaZE",
  "~10597jaSMALL LETTER AwaBBExbwbCxbHwbDxbHwaEIxawbFwaGA~105A3wbHxbHwaIxaJEwcwaKAwbLxbLwaMEwbNxbJwaO",
  "waPEwaQAwaRE~105B3wbSxbHwbTxbHwaUwaVEwbX~105BBwaYwaZE~10600aaLINEAR A SIGN AB001sa2sa3sa4sa5sa6sa7",
  "sa8sa9ra10sa1sa3sa6sa7ra20sa1taFtaMsa2taFtaMsa3taMsa4sa6sa7sa8pa028B!sa9ra30sa1sa4sa7sa8sa9ra40sa1",
  "sa4sa5sa6sa7sa8sa9ra50sa1sa3sa4sa5sa6sa7sa8sa9ra60sa1sa5sa6sa7sa9ra70sa3sa4sa6sa7sa8sa9ra80sa1sa2",
  "sa5sa6sa7pa100-102+qb11ra20pa120B!sa2sa3ra31AtaBpa131C!ra64ra71ra80sa8ra91pb30ra2ra3ra4ra5ra6ra7",
  "ra8ra9AsaBsaCqa10ra1ra2ra3AsaBsaCra4ra5ra6ra7ra8ra9qa20ra1ra2ra3ra4ra5ra6ra7ra8ra9qa30ra1ra2ra3ra4",
  "ra5ra6ra7ra8ra9qa40ra1ra2ra3ra4ra5ra6ra7ra8ra9qa50ra1ra2ra3ra4ra5ra6ra7ra8ra9qa60ra1ra2ra3ra4ra5",
  "ra6ra7ra8ra9qa70ra1pa400-VASre1re2re3re4re5re6re7re8re9qe10re1re2re3re4re5re6re7re8pa501ra2ra3ra4",
  "ra5ra6ra8ra9qa10ra1ra2ra3ra5ra6qa20ra1ra3ra4ra5ra6ra7ra8ra9qa30ra1ra2ra4ra5ra6ra7ra8ra9qa40ra1ra2",
  "ra5ra7ra8ra9qa50ra1ra2ra3ra4ra5ra6ra7ra9qa63ra4ra5ra6ra8ra9qa70ra1ra2ra3ra4ra5ra6ra7ra8ra9qa80ra1",
  "ra2ra3ra4ra5ra6ra7ra8ra9qa91ra2ra4ra5ra6ra8pa600ra1ra2ra3ra4ra6ra8ra9qa10ra1ra2ra3ra4ra5ra6ra7ra8",
  "ra9qa20ra1ra2ra3ra4ra6ra7ra8ra9qa34ra7ra8qa40ra2ra3ra4ra5ra6ra8ra9qa51ra2ra3ra4ra5ra6ra7ra8ra9qa60",
  "ra1ra2ra3ra4~10740pa701 Ara2 Bra3 Dra4 Era5 Fra6 Hra7 Jra8 Kra9 Lsa-2 L2ta3 L3ta4 L4ta6 L6qa10 W",
  "ra1 Xra2 Yra3 OMEGAra4 ABBrc5 ra7 DDqa26 EYYYqa32 JE~10760pa800ra1ra2ra3ra4ra5ra6ra7",
  "~10780aaMODIFIER LETTER SMALL CAPITAL AAraUPERSCRIPT TRIANGULAR COLONáqHALF $waAE%ãaBwaB WITH HOOK",
  "~10787waDZ DIGRAPHåa WITH RETROFLEX HOOKëaCURL$xiEZHxa WITH TAIL(wkDæa AND TAILwaREVERSED E",
  "wcCLOSED REVERSED OPEN(wiFENGwaRAMS HORN;ãaG)wkGwlCAPITAL waH WITH STROKE!ãaH$wlHEN",
  "wfDOTLESS J WITH STROKE AND+wiLSxiZxa WITH BELTwlCAPITAL !âeRETROFLEX HOOK AND xaEZH",
  ")wfLEZH WITH RETROFLEXwaTURNED Y&wkTURNED Y;wmO)ãaOExaLOSED OMEGAwaQ&âaR WITH LONG LEG",
  "ña AND RETROFLEX HOOKwaR WITH TAILâaFISHHOOK)ãaRwaTC DIGRAPH WITH CURLxaS DIGRAPH<wvTS DIGRAP",
  "!xiESH!xuwfV WITH RIGHT~107B2)ãaY>qmGLOTTAL STOPqyREVERSED qaBILABIAL CLICKqiDENTqiLATERqgALVEOLAR",
  "+quRETROFLEX CLICK<wkS~10800aaCYPRIOT SYLLABLE AraEraIraOraUraJA~10808saO~1080AraKAsaEsaIsaOsaU",
  "raLAsaEsaIsaOsaUraMAsaEsaIsaOsaUraNAsaEsaIsaOsaUraPAsaEsaIsaOsaUraRAsaEsaIsaOsaUraSAsaEsaIsaOsaU",
  "raTAsaEsaIsaOsaUraWAsaEsaIsaO~10837raXAsaE~1083CraZA~1083FsaOaaIMPERIAL ARAMAIC LETTER ALEPHybBET",
  "yaGIMEL!ydDALyaHEyaWAWyaZAYIN%ydHydTybYODybKAPybLAMEDyaMEMyaNUNyaSAMEKH+yeyaPEybSADH*ycQOybRES",
  "&ycSH>ycT~10857raSECTION SIGNraNUMBER ONEyaTWOzaHREEzaENzaWENTY&àa HUNDREDábTHOUSANyjTEN",
  ";acPALMYRENE LETTER ALErbBETraGIMEL!rdDALraHEraWAWraZAYIN%rdHrdTrbYODrbKAPrbLAMEDraMEMraFINAL NUN",
  "rdraSAMEKH,reraPErbSADH+rcQOrbRES&rcSHraTAWmaFT-POINTING FLEURONksRIGHkaNUMBER ONEraTWOsaHREE",
  "raFOURsaIVEraTENsaWENTY;acNABATAEAN LETTER FINAL ALErf!xbBETreraGIMEL!rdDAL%xaHErcraWAWraZAYIN&rdH",
  "rdT,xbYODre<xcKAre%xcLAMErg!xaMEMrd!xaNUNrdraSAMEKH<reraPErbSADH.rcQOrbRES*xbSHIreraTAW",
  "~108A7kaNUMBER ONEraTWOsaHREEraFOURklCRUCIFORM !saIVEraTENsaWENTY*ua HUNDRED",
  "~108E0<acHATRAN LETTER ALEobBEToaGIMELoaDALETH-RESHoaHEoaWAWoaZAYN(odHodTobYODobKAPobLAMEDoaMEM",
  "oaNUNoaSAMEKH+odoaPEobSADH*ocQO~108F4oaSHIN=ocT~108FBhaNUMBER ONEobFIVoaTENpaWENTY%ra HUNDRED",
  "aaPHOENICIAN LETTER ALFsaBETsaGAMLsaDELTsaHEsaWAUsaZAI$uaTscTsaYODsaKAFsaLAMDsaMEMsaNUNsaSEMKsaAIN",
  "saPEsbSADsaQOFsaROSH&scSH>scTlaNUMBER ONEsaTENtaWENTY$va HUNDRED!uaOtaHREE~1091FlaWORD SEPARATOR",
  "aaLYDIAN LETTER AoaBoaGoaDoaEoaVoaIoaYoaKoaLoaMoaNoaOoaRoaSSoaToaUoaFoaQoaSoaTToaANobEoaLYoaNNoaC",
  "~1093FhaTRIANGULAR MARK~10980aaMEROITIC HIEROGLYPHIC LETTER AâaEâaIâaOâaYAâbWâbBäa-2âaPAâbMâbNäa-2",
  "ãaEäa-2âaRAäa-2âaLAâbKHâcHâbSäa-2ãaE&ãbâbQâbTäa-2ãaEäa-2ãaOâaDAwaSYMBOL VIDJæa-2jaCURSIVE LETTER A",
  "yaEyaIyaOyaYAybWybBybPybMybNzaEyaRAybLybKHycHybSycARCHAIC yaSE&zbybQybTzaEzaOyaDA",
  "~109BCraFRACTION ELEVEN TWELFTHSßaONE HALFraLOGOGRAM RMTßaIMNraNUMBER ONEyaTWOzaHREEyaFOURzaIVE",
  "yaSIXzaEVENyaEIGHT*ycNI$ycTzaWENTYzcHIRydFOzcIFycSIXzcEVEN~109D2>àa HUNDREDyiTWOziHREEyiFOURziIVE",
  "yiSIXziEVENyiEIGHT*ykNI+ábTHOUSANyjTWOzjHREEyjFOURzjIVEyjSIXzjEVENyjEIGHT*ylNI$ylTzjWENTYzlHIRymFO",
  "zlIFylSIXzlEVEN+âjYylNINEyjONE HUNDREDyrTWOzrHREEyrFOURzrIVEyrSIXzrEVENyrEIGHT*ytNI",
  "raFRACTION ONE TWELFTHßaTWO TWELFTHSàjHREEßjFOURàjIVEßjSIXàjEVENßjEIGHTßjNINE$ßlT",
  "aaKHAROSHTHI LETTER AlaVOWEL SIGN IwaUwaVOCALIC R~10A05waEwaO~10A0CraLENGTH MARK",
  "laSIGN DOUBLE RING BELOWqaANUSVARAqbVISARG,sbKtbHsbGtbH~10A15sbCtbHsbJ~10A19sbNYsbTTubHsbDDubHsbNN",
  "sbTtbHsbDtbHsbNsbPtbHsbBtbHsbMsbYsbRsbLsbVsbSHtbStbsbZsbHsbKKsbTTTHvbsbVH~10A38laSIGN BAR ABOVE",
  "qaCAUDAqaDOT BELOW~10A3FlaVIRAMAlaDIGIT ONEraTWOsaHREEraFOURlaNUMBER TENtaWENTYsaONE HUNDRED",
  "wbTHOUSANlaFRACTION ONE HALF~10A50laPUNCTUATION DOTxaSMALL CIRCLExgyaRESCENT BARxaMANGALAMxaLOTUS",
  "xaDANDAyeOUBLE D$ybINE~10A60aaOLD SOUTH ARABIAN LETTER HEzaLAMEDHzbHETzaMEMzaQOPHzaWAWzaSHINzaRESH",
  "(zdB%zcTzaSAT)zcKAzaNUN.zeK<zcSADàaMEKHzaFEzaALEFßaYN&zeDHzaGIMEL*zdDAL%zdGH!zdT!zdZ%ßfHzbYOD",
  "zaTHAW=zeTsaNUMBER ONEzaFIFTYvaERIC INDICATOReaNORTH ARABIAN LETTER HEHzaLAMzaHAHzaMEEMzaQAFzaWAW",
  "zaES-2)zcRzcBzcT%áa1)zcKzaNOON.zdKzaSAD&áa3)zcFzaALEFßaIN&zcDzaGEEMzaDAL%zdGH,zcT!zdZ%zcTH,zcYzcTH",
  "zbZAsaNUMBER ONEzaTENßaWENTY~10AC0aaMANICHAEAN LETTER ALEPHsbBETtdHsaGIMELteH$sdDALsaHEsaWAW",
  "laSIGN UD!saZAYINteHseJteH.sesdTsbYODsbKAPsdXsdKHsbLAMEDsfDHsgTsaMEMsaNUNsaSAMEKH;setdAsaPEsbF",
  "sbSADH:scQOsdXsdQHsbRES*scSHtdSsaTAWlaABBREVIATION MARK ABOVEâaBELOW~10AEBlaNUMBER ONEsbFIVsaTEN",
  "taWENTY%va HUNDREDlaPUNCTUATION STARxaFLEURONxaDOUBLE DOT WITHIN DOTzmßaxaTWO DOTSxaLINE FILLER",
  "~10B00aaAVESTAN LETTER AqaAqaOqbAqaNqbAqaEraEpbqaEpaOqaOpaIqaIpaUqaUpaKEpbXqbYqbVpbGqbGqbHpbCpbJ",
  "pbTqbHpbDqbHpbTTpbPpbFpbBqbHpbNGrbYrbVqbqbYqbNpbMpcHpbYYqbpbVpbRpbLpbSpbZpbSHpcZ!rbYqbSHpc",
  "~10B39iaABBREVIATION MARKaaTINY TWO DOTS OVER ONE DOT PUNCTUATIONaçSMALLaçLARGE",
  "gmONE DOT OVER TWO DOTS!kmRINGS OVER ONE RING!knRING OVER TWO RING",
  "aaINSCRIPTIONAL PARTHIAN LETTER ALEPHãbBETãaGIMEL!ãdDALãaHEãaWAWãaZAYIN%ãdHãdTãbYODãbKAPãbLAMED",
  "ãaMEMãaNUNãaSAMEKH+ãeãaPEãbSADH*ãcQOãbRES&ãcSH>ãcT~10B58xaNUMBER ONEãaTWOäaHREEãaFOURãaTENäaWENTY",
  "(æa HUNDREDçbTHOUSAN:qcHLAVI LETTER ALEâbBETâaGIMEL!âdDALâaHEâaWAW-AYIN-RESHâaZAYIN%âdHâdTâbYOD",
  "âbKAPâbLAMEDâbMEM-QOPâaNUNâaSAMEKHâaPEâbSADHãaHINâaTAW~10B78waNUMBER ONEâaTWOãaHREEâaFOURâaTEN",
  "ãaWENTY(åa HUNDREDæbTHOUSAN=acPSALTER PAHLAVI LETTER ALExbBETxaGIMEL!xdDALxaHExaWAW-AYIN-RESH",
  "xaZAYIN%xdHxbYODxbKAPxbLAMEDxbMEM-QOPxaNUNxaSAMEKHxaPExbSADHyaHINxaTAW~10B99qaSECTION MARK",
  "qmTURNED qaFOUR DOTS WITH CROSSäaDOT~10BA9qaNUMBER ONExaTWOyaHREExaFOURxaTENyaWENTY(ßa HUNDRED",
  "~10C00aaOLD TURKIC LETTER ORKHON AscYENISEIàaE$zaI!ßaIßaE$zaOßaE$ßbO!zaAB*àaB!ßbE!àbE!ßaG!àaG!ßbE",
  "!àbE!ßaD!àaD!ßbEzaEZ>àaZ!zaAY&àaY!ßbE!àbE!àaK!áaK!zcO!ßcO!zaAL%àaL!ßbEzaELTßaMzaANßbE,áaN&ßbN",
  "!ßaENT!àaC!áaC!àaY!áaYßaANG$àaG!àcE!ßaPzbOzaICzbE,àb!zaAQ)àaQ!zbI!ßbI!zbO!ßbO!zaAR(àaR!ßbEßaSßbE",
  "ßaSH&àaSH!zcE!ßcE!zaAT%àaT!ßbE!àbE!zbO+zdB~10C80eaHUNGARIAN CAPITAL LETTER AãaAâaEBâbAMâaECãbNãaCS",
  "ãaDâbANâaEâbCLOSE âbEãaFãaGäaYãaHâaIãaIâaEJãaKâbAâbUNâaELäaYãaMãaNäaYâaOãaOâaNIKOLSBURG OE",
  "âdRUDIMENTAâbOEâaEPãbMãaRâcSHORT âaESäaZãaTãbNãaTYãaCHâaUãaU=íbU=ìbUâaEVãaZäaS,åa-SHAPED SIGNâaUS",
  "~10CC0oaSMALL LETTER AáaAàaEBàbAMàaECábNáaCSáaDàbANàaEàbCLOSE àbEáaFáaGâaYáaHàaIáaIàaEJáaKàbAàbUN",
  "àaELâaYáaMáaNâaYàaOáaOàaNIKOLSBURG OEàdRUDIMENTAàbOEàaEPábMáaRàcSHORT àaESâaZáaTábNáaTYáaCHàaUáaU",
  "=ëbU=êbUàaEVáaZâaS,ãa-SHAPED SIGNàaUS~10CFAoaNUMBER ONEvbFIVvaTEN!xaFTY%ya HUNDREDzbTHOUSAN",
  "aaHANIFI ROHINGYA LETTER AxbBxbPxbTybTxbJxbCxbHxcKxbFxbDybDxbRybRxbZxbSybHxbKxbGxbLxbMxbNxbW",
  "xcKINNA xbY!âbYxbNGybYxbVqbVOWEL waIwaUwaEwaOqaMARK SAKINvaNA KHONNAqaSIGN HARBAHAYvaTAHALAxbN",
  "xaSSI~10D30qaDIGIT ZEROwaONEwaTWOxaHREEwaFOURxaIVEwaSIXxaEVENwaEIGHT*wcNI~10E60+akRUMIlaTWOmaHREE",
  "laFOURmaIVElaSIXmaEVENlaEIGHT*lcNI$fcNUMBER TnaWENTYncHIRmdFOncIFmcSIXncEVENmcEIGHmcNINE",
  "maONE HUNDREDmiTWOniHREEmiFOURniIVEmiSIXniEVENmiEIGHT*mkNIfaFRACTION ONE HALFsaQUARTERsaTHIRD",
  "oaTWO THIRDS~10E80aaYEZIDI LETTER ELIFoaBEobPpbHocTobSoaCIMpcHqcHoaHHAobXoaDALocZoaRApbHobZobJ",
  "oaSINpcHpaADocDoaTAoaZEoaEYNodXHoaFAobVqa ALTERNATE FORMoaQAFocKpcHocGoaLAMobMIoaNUNoaUMoaWAWobO",
  "obEoaHAYoaYOTobE~10EABhaCOMBINING HAMZA MARKrgMADDhfHYPHENATION~10EB0;ra WITH DOT ABOVE",
  "ogYOT WITH CIRCUMFLEX~10F00aaOLD SOGDIAN LETTER ALEPHtfFINAL tbBET!zbBETtaGIMELtaHE$zaHEtaWAW",
  "taZAYIN(tdHtbYODtbKAPtbLAMEDtaMEMtaNUN+zaNUNáa WITH VERTICAL TAILtaSAMEKH,teudLTERNATE AtaPEtbSADH",
  ">zcSAD)ztSADHE=tdRESH-AYIN-DAL(tcSHtaTAW%zaTAW&ztTAWmaNUMBER ONEtaTWOuaHREEtaFOURuaIVEtaTENuaWENTY",
  "ucHIR*wa HUNDREDmaFRACTION ONE HALF=nlIGATURE ~10F30abSOGDIAN LETTER ALEPpbBETpaGIMELpaHEpaWAW",
  "paZAYIN&pdHpbYODpbKAPpbLAMEDpaMEMpaNUNpaSAMEKH*pepaPEpbSADH$peRESH-pcSH<pcT;pdFpbLES%ifINDEPENDENT",
  "iaCOMBINING DOT BELOWsgTWO DOTS!waABOVE!àaABOVEsgCURVEyaBELOW!sgHOOKxaBELOWskLONG sgRESHsgSTROKE",
  "iaNUMBER ONEpaTENqaWENTY$sa HUNDREDiaPUNCTUATION TWO VERTICAL BARSêa WITH DOTSuaCIRCLE WITH DOT",
  "!ylCIRCLE!upHALF ~10F70aaOLD UYGHUR LETTER ALEPHsbBETsdGIMEL-HsaWAWsaZAYIN$seFINAL sbYODsbKAP",
  "sbLAMEDsaMEMsaNUNsaSAMEKHsaPEsbSADHsaRESH.scSH;scT$sdLlaCOMBINING DOT ABOVEzaBELOW!vgTWO DOTS",
  "ãaBELOWlaPUNCTUATION BARxaTWO BARSàbDOTxfFOUR~10FB0aaCHORASMIAN LETTER ALEPHsfSMALL sbBETsaGIMEL",
  "!sdDALsaHEsaWAWsdCURLED saZAYIN&sdHsbYODsbKAPsbLAMEDsaMEMsaNUN<tbAMEK*sesaPEsaRESH$scSH;scT",
  "laNUMBER ONEsaTWOtaHREEsaFOURsaTENtaWENTY(va HUNDRED~10FE0aaELYMAIC LETTER ALEPHpbBETpaGIMEL!pdDAL",
  "paHEpaWAWpaZAYIN%pdHpdTpbYODpbKAPpbLAMEDpaMEMpaNUNpaSAMEKH+pepaPEpbSADH*pcQOpbRES&pcSH>pcT",
  ";jeIGATURE ZAYIN-~11000aaBRAHMI SIGN CANDRABINDUmaANUSVARAmbVISARGmbJIHVAMULIYmdUPADHMANhbLETTER ",
  "paAoaIpaIoaUpaUoaVOCALIC RxaRwaLxaLoaEoaAIoaOoaAUoaKApbHobGpbHobNGobCpbHobJpbHobNYobTTqbHobDDqbH",
  "obNNobTpbHobDpbHobNobPpbHobBpbHobMobYobRobLobVobSHpbSpbobHobLLodOLD TAMIL LybRRybNNNhbVOWEL SIGN A",
  "scBHATTIPROLU saItaIsaUtaUsaVOCALIC RàaRßaLàaLsaEsaAIsaOsaAUiaIRAMAhbDANDieOUBLE D",
  "haPUNCTUATION DOTvbUBLE DOtaLINEtaCRESCENT BARtaLOTUS~11052$hcNUMBER OoaTWOpaHREEoaFOURpaIVEoaSIX",
  "paEVENoaEIGHT*ocNI$ocTpaWENTYpcHIRodFOpcIFocSIX+taTY+taY+saTYoaONE HUNDREDsbTHOUSANhaDIGIT ZERO",
  "naONEnaTWOoaHREEnaFOURoaIVEnaSIXoaEVENnaEIGHT*ncNIhaSIGN OLD TAMIL VIRAMA",
  "haLETTER OLD TAMIL SHORT EãaO!hsVOWEL SIGNçaO$yaLLA~1107FhaNUMBER JOINERaaKAITHI SIGN CANDRABINDU",
  "maANUSVARAmbVISARGhbLETTER paAoaIpaIoaUpaUoaEoaAIoaOoaAUoaKApbHobGpbHobNGobCpbHobJpbHobNYobTTqbH",
  "obDDqbDHqcocRobNNobTpbHobDpbHobNobPpbHobBpbHobMobYobRobLobVobSHpbSpbobHhbVOWEL SIGN AsaItaIsaUtaU",
  "saEsaAIsaOsaAUhaSIGN VIRAMAmbNUKThaABBREVIATION SIGNhkENUMERhfNUMBERhaSECTION MARKhmDOUBLE iaANDA",
  "!oaDANDA,saVOCALIC R~110CD(sa ABOVE~110D0aaSORA SOMPENG LETTER SAHucTucBucCucDucGucMucNGucLucNucV",
  "ucPucYucRucHucKucJucNYucubEEubIubUubOubEuaMAE~110F0naDIGIT ZEROtaONEtaTWOuaHREEtaFOURuaIVEtaSIX",
  "uaEVENtaEIGHT*tcNI~11100aaCHAKMA SIGN CANDRABINDUmaANUSVARAmbVISARGhbLETTER AoaIoaUoaE%ocKpcHocG",
  "pcHocNGocCpcHocJpcHocNYocTTqcHocDDqcHocNNocTpcHocDpcHocNocPpcHocBpcHocMocYYpcocRocLocWocSocH",
  "hbVOWEL SIGN saItaIsaUtaUsaEsaAIsaOsaAUsaOIhaO MARKhfAU:ibIRAMhbMAAYYA~11136haDIGIT ZEROnaONEnaTWO",
  "oaHREEnaFOURoaIVEnaSIXoaEVENnaEIGHT*ncNI;hfSECTIONhaDANDAieOUBLE D$hjQUES=hcLETTER LHhcVOWEL SIGN ",
  "saEI$ocV~11150abMAHAJANI LETTER qaIqaUqaEqaOqaKArbHqbGrbHqbCrbHqbJrbHqbNYqbTTsbHqbDDsbHqbNNqbTrbH",
  "qbDrbHqbNqbPrbHqbBrbHqbMqbRqbLqbVqbSqbHqbRRjbSIGN NUKTjaABBREVIATION SIGNjaSECTION MARK",
  "jaLIGATURE SHRI~11180aaSHARADA SIGN CANDRABINDUnaANUSVARAnbVISARGibLETTER qaApaIqaIpaUqaU",
  "paVOCALIC RyaRxaLyaLpaEpaAIpaOpaAUpaKAqbHpbGqbHpbNGpbCqbHpbJqbHpbNYpbTTrbHpbDDrbHpbNNpbTqbHpbDqbH",
  "pbNpbPqbHpbBqbHpbMpbYpbRpbLqbLpbVpbSHqbSqbpbHibVOWEL SIGN AtaIuaItaUuaUtaVOCALIC RáaRàaLáaLtaEtaAI",
  "taOtaAUiaSIGN VIRAMAnbAVAGRAHnbJIHVAMULIYndUPADHMANiaOMiaDANDAjeOUBLE DiaABBREVIATION SIGN",
  "iaSEPARATORjaANDHI MARK)nbNUKT:oaMODIFIER MARKifEXTRA SHORT VOWELifSUTRA=taPRISHTHAMATRA E",
  "&naINVERTED CANDRABINDUiaDIGIT ZEROoaONEoaTWOpaHREEoaFOURpaIVEoaSIXpaEVENoaEIGHT*ocNIiaEKAM",
  ":naSIDDHAMiaHEADSTROKEiaCONTINUATION SIGNiaSECTION MARK-1va2~111E1=bkINHALA ARCHAICwaTWOxaHREE",
  "waFOURxaIVEwaSIXxaEVENwaEIGHT*wcNI$qcNUMBER TyaWENTYycHIRxdFOycIFxcSIXycEVENxcEIGHxcNINE",
  "xaONE HUNDREDàbTHOUSAN~11200aaKHOJKI LETTER ApaAoaIoaUoaEoaAIoaOoaAUoaKApbHobGpbGpbHobNGobCpbHobJ",
  "pbJ~11213obNYobTTqbHobDDqbHobNNobTpbHobDpbDDpbHobNobPpbHobBpbBpbHobMobYobRobLobVobSobHobLL",
  "hbVOWEL SIGN AsaItaIsaUsaEsaAIsaOsaAU<hcSIGN ANUSVAmbVIRAMmbNUKTmbSHADDhcDANieOUBLE D",
  "haWORD SEPARATORhaSECTION MARKhmDOUBLE haABBREVIATION SIGN)naUKUN~11280aaMULTANI LETTER ApaIpaUpaE",
  "paKAqbHpbG~11288qbH~1128ApbCqbHpbJqbJ~1128FpbNYpbTTrbHpbDDrbDrbHpbNNpbTqbHpbDqbHpbNpbPqbHpbB",
  "~1129FqbHpbMpbYpbRpbLpbVpbSpbHpbRRqbHiaSECTION MARK~112B0aaKHUDAWADI LETTER AsaAraIsaIraUsaUraE",
  "raAIraOraAUraKAsbHrbGsbGsbHrbNGrbCsbHrbJsbJsbHrbNYrbTTtbHrbDDtbDrbRR!tbHrbNNrbTsbHrbDsbHrbNrbPsbH",
  "rbBsbBsbHrbMrbYrbRrbLrbVrbSHsbrbHkbSIGN ANUSVARkbVOWEL SIGN AvaIwaIvaUwaUvaEvaAIvaOvaAU,pbNUKT",
  "pbVIRAM~112F0kaDIGIT ZEROqaONEqaTWOraHREEqaFOURraIVEqaSIXraEVENqaEIGHT*qcNI",
  "~11300abGRANTHA SIGN COMBINING ANUSVARA ABOVoaANDRABINDUnaANUSVARAnbVISARG~11305ibLETTER qaApaIqaI",
  "paUqaUpaVOCALIC RxaL~1130FpaEEpaAI~11313paOOpaAUpaKAqbHpbGqbHpbNGpbCqbHpbJqbHpbNYpbTTrbHpbDDrbH",
  "pbNNpbTqbHpbDqbHpbN~1132ApbPqbHpbBqbHpbMpbYpbR~11332pbLqbL~11335pbVpbSHqbSqbpbH",
  "~1133BaaCOMBINING BINDU BELOW!ibSIGN NUKTnbAVAGRAHibVOWEL SIGN AtaIuaItaUuaUtaVOCALIC RáaR",
  "~11347taEEtaAI~1134BtaOOtaAU:nbVIRAM~11350iaOM~11357iaAU LENGTH MARK~1135D>ncPLU",
  "ibLETTER VEDIC ANUSVARviDOUBLE .ilLETTERxaLL;àaLáaL~11366aaCOMBINING GRANTHA DIGIT ZEROyaONEyaTWO",
  "zaHREEyaFOURzaIVEyaSIX~11370saLETTER AzbKzbNzaVIzaPA~11400&akNEWnaAmaInaImaUnaUmaVOCALIC RvaRuaL",
  "vaLmaEmaAImaOmaAUmaKAnbHmbGnbHmbNGobHmbCnbHmbJnbHmbNYobHmbTTobHmbDDobHmbNNmbTnbHmbDnbHmbNnbHmbPnbH",
  "mbBnbHmbMnbHmbYmbRnbHmbLnbHmbWmbSHnbSnbmbHfbVOWEL SIGN AqaIraIqaUraUqaVOCALIC RzaRyaLzaLqaEqaAIqaO",
  "qaAUfaSIGN VIRAMAkaCANDRABINDUkaANUSVARA$mbSARGkbNUKTkbAVAGRAH%kiFINAL faOM!haDDHIfaDANDAgeOUBLE D",
  "fbCOMMfaGAP FILLERfaABBREVIATION SIGNfaDIGIT ZEROlaONElaTWOmaHREElaFOURmaIVElaSIXmaEVENlaEIGHT",
  "*lcNI<mbCOMMfaPLACEHOLDER MARK~1145D;fjINSER!ffSANDHIfaLETTER VEDIC ANUSVARAfbSIGN JIHVAMULIY",
  "kdUPADHMAN~11480aaTIRHUTA ANJIiaLETTER AqaApaIqaIpaUqaUpaVOCALIC RyaRxaLyaLpaEpaAIpaOpaAUpaKAqbH",
  "pbGqbHpbNGpbCqbHpbJqbHpbNYpbTTrbHpbDDrbHpbNNpbTqbHpbDqbHpbNpbPqbHpbBqbHpbMpbYpbRpbLpbVpbSHqbSqbpbH",
  "ibVOWEL SIGN AtaIuaItaUuaUtaVOCALIC RáaRàaLáaLtaEtbSHORT taAItaO$zaOtaAUibSIGN CANDRABIND",
  "naANUSVARAnbVISARGpbRAMnbNUKTnbAVAGRAHiaGVANGiaABBREVIATION SIGNiaOM~114D0iaDIGIT ZEROoaONEoaTWO",
  "paHREEoaFOURpaIVEoaSIXpaEVENoaEIGHT*ocNI~11580aaSIDDHAM LETTER AqaApaIqaIpaUqaUpaVOCALIC RyaRxaL",
  "yaLpaEpaAIpaOpaAUpaKAqbHpbGqbHpbNGpbCqbHpbJqbHpbNYpbTTrbHpbDDrbHpbNNpbTqbHpbDqbHpbNpbPqbHpbBqbHpbM",
  "pbYpbRpbLpbVpbSHqbSqbpbHibVOWEL SIGN AtaIuaItaUuaUtaVOCALIC RáaR~115B8taEtaAItaOtaAU",
  "ibSIGN CANDRABINDnaANUSVARAnbVISARGpbRAMnbNUKTnaSIDDHAMiaDANDAjeOUBLE DiaSEPARATOR DOTsaBAR",
  "iaREPETITION MARK-1ya2ya3iaEND OF TEXT MARK&kaCTION MARK WITH TRIDENT AND U-SHAPED ORNAMENTS",
  "ëeDOTTED CRESCßvRAYSïjDOUBLE ïmTRIPvaDOUBLE RINGåa WITH RAYS%ßq%ßqßnQUADRUßoSEPTßbCIRCLES AND RAY",
  "ëbTWO ENCLOSUREëlFOURiaLETTER THREE-CIRCLE ALTERNATE IqtWOêaIpaALTERNATE UimVOWEL SIGNãaU",
  "~11600aaMODI LETTER AnaAmaInaImaUnaUmaVOCALIC RvaRuaLvaLmaEmaAImaOmaAUmaKAnbHmbGnbHmbNGmbCnbHmbJ",
  "nbHmbNYmbTTobHmbDDobHmbNNmbTnbHmbDnbHmbNmbPnbHmbBnbHmbMmbYmbRmbLmbVmbSHnbSnbmbHmbLLfbVOWEL SIGN A",
  "qaIraIqaUraUqaVOCALIC RzaRyaLzaLqaEqaAIqaOqaAUfaSIGN ANUSVARAkbVISARGmbRAM$lcRDHACANDfbDAND",
  "geOUBLE DfaABBREVIATION SIGN%kbHUV~11650faDIGIT ZEROlaONElaTWOmaHREElaFOURmaIVElaSIXmaEVENlaEIGHT",
  "*lcNI~11660caNGOLIAN BIRGA WITH ORNAMENTkaROTATED BIRGA!ktDOUBLE kwTRIP%viDOUBLE !kuROTATED",
  "âiDOUBLE (kjINVER!kãINVER!kgSWIRL&kuSWIRL$kàSWIRLkåTURNED ~11680aaTAKRI LETTER AoaAnaIoaInaUoaUnaE",
  "naAInaOnaAUnaKAobHnbGobHnbNGnbCobHnbJobHnbNYnbTTpbHnbDDpbHnbNNnbTobHnbDobHnbNnbPobHnbBobHnbMnbYnbR",
  "nbLnbVnbSHobnbHnbRRgcSIGN ANUSVAlbVISARGgbVOWEL SIGN AraIsaIraUsaUraEraAIraOraAU,nbRAMlbNUKT",
  "=ncARCHAIC KgaABBREVIATION SIGN~116C0gaDIGIT ZEROmaONEmaTWOnaHREEmaFOURnaIVEmaSIXnaEVENmaEIGHT",
  "*mcNI~11700aaAHOM LETTER KAnbHmbNGnbmbTmcALTERNATE mbPnbHmbBmbMmbJmbCHmcTmbRmbLmbSmbNYmbHmbmbDnbH",
  "mbGmcALTERNATE mbGHmcBmcJ%wbB~1171D;fdCONSONANT SIGN MEDIALàbRàcLIGATING fbVOWEL SIGN raAqaIraIqaU",
  "raUqaEqaAWqaOqaAIraMfaSIGN KILLER~11730faDIGIT ZEROlaONElaTWOmaHREElaFOURmaIVElaSIXmaEVENlaEIGHT",
  "*lcNI$fcNUMBER TnaWENTY;kaSMALL SECTIONlgkaRULAIgbYMBOL VfaLETTER CAmbTTobHmbDDobHmbNNmbLL",
  "~11800abDOGRA LETTER oaAnaIoaInaUoaUnaEnaAInaOnaAUnaKAobHnbGobHnbNGnbCobHnbJobHnbNYnbTTpbHnbDDpbH",
  "nbNNnbTobHnbDobHnbNnbPobHnbBobHnbMnbYnbRnbLnbVnbSHobSobnbHnbRRgbVOWEL SIGN AraIsaIraUsaU",
  "raVOCALIC RßaRraEraAIraOraAU:gcSIGN ANUSVAlbVISARGnbRAMlbNUKTgaABBREVIATION SIGN",
  "~118A0>acWARANG CITI CAPITAL LETTER NGàbàaWIàaYUáaAáaOàaIIàaUUàaEàaOàaANGàaGAàaKOàaENY.âaJàaUC$âaN",
  "àaODDàaTTE+àcNUàaDAàaATáaMàaBUàbPàaHIYOábOLâaRRábAàaSSUUáaII(àdVmaSMALL LETTER NGAAzbzaWIzaYUßaA",
  "ßaOzaIIzaUUzaEzaOzaANGzaGAzaKOzaENYzaYUJzaUCzaENNzaODDzaTTE+zcNUzaDAzaATßaMzaBUzbPzaHIYOßbOLàaRR",
  "ßbAzaSSUUßaII(zdVmbDIGIT ZERsaONEsaTWOtaHREEsaFOURtaIVEsaSIXtaEVENsaEIGHT*scNI$mcNUMBER TuaWENTY",
  "ucHIRtdFOucIFtcSIXucEVENtcEIGHtcNINE~118FFmaOMaaDIVES AKURU LETTER AuaAtaIuaItaUuaUtaE~11909taO",
  "~1190CtaKAubHtbGubHtbNGtbCubHtbJ~11915tbNYtbTT~11918tbDDvbHtbNNtbTubHtbDubHtbNtbPubHtbBubHtbMtbY",
  "ubYtbRtbLtbVtbSHubSubtbHtbLLtbZmbVOWEL SIGN AxaIyaIxaUyaUxaE~11937xaAIxaO~1193BmaSIGN ANUSVARA",
  "raCANDRABINDUraHALANTAmbVIRAMmaPREFIXED NASAL SIGNmaMEDIAL YAmbINITIAL R!tbR(rcNUKmbDOUBLE DAND",
  "maGAP FILLERmaEND OF TEXT MARK~11950maDIGIT ZEROsaONEsaTWOtaHREEsaFOURtaIVEsaSIXtaEVENsaEIGHT*scNI",
  "~119A0aaNANDINAGARI LETTER AuaAtaIuaItaUuaUtaVOCALIC RáaR~119AAtaEtaAItaOtaAUtaKAubHtbGubHtbNGtbC",
  "ubHtbJubHtbNYtbTTvbHtbDDvbHtbNNtbTubHtbDubHtbNtbPubHtbBubHtbMtbYtbRtbLtbVtbSHubSubtbHtbLLtbRR",
  "mbVOWEL SIGN AxaIyaIxaUyaUxaVOCALIC RåaR~119DAxaExaAIxaOxaAU:mcSIGN ANUSVArbVISARGtbRAMrbAVAGRAH",
  "raSIDDHAMmaHEADSTROKE,xbPRISHTHAMATRA ~11A00aaZANABAZAR SQUARE LETTER AraVOWEL SIGN IáaUEâaáaEábO",
  "âaáaAIâaUáaREVERSED IxaLENGTH MARK.ybKzbHybGzbHybNGybCzbHybJybNYybTTßbHybDDßbHybNNybTzbHybDzbHybN",
  "ybPzbHybBzbHybMybTSßbHybDZßbHydzbyb-ybYybRybLybV,ydzbSzbybH$ydKraFINAL CONSONANT MARKraSIGN VIRAMA",
  "waCANDRABINDUæa WITH ORNAMENTáowaANUSVARA&ybSARG=rjCLUSTER-INITIAL zbFINAL LETTER YëbRëbLëbV",
  ":rfINITIAL HEADrkCLOSINGraMARK TSHEGwaSHADweDOUBLE $wfLONG (zjDOUBLE-LINED rxCLOSINGraSUBJOINER",
  "~11A50aaSOYOMBO LETTER AiaVOWEL SIGN ItaUEuataEtaOuaEtaAIuaUtaVOCALIC RàaLoaLENGTH MARK:pbKqbHpbG",
  "qbHpbNGpbCqbHpbJqbHpbNYpbTTrbHpbDDrbHpbNNpbTqbHpbDqbHpbNpbPqbHpbBqbHpbMpbTSrbHpbDZpbZHqbpb-pbYpbR",
  "pbLpbV+pdqbSqbpbH$pdKibSIGN JIHVAMULIYndUPADHMAN,ijCLUSTER-INITIAL äbLäbSHåb",
  "iaFINAL CONSONANT SIGN GâaKâaNGâaDâaNâaBâaMâaRâaLâaSHãaâa-AibSIGN ANUSVARnbVISARGiaGEMINATION MARK",
  "iaSUBJOINERiaMARK TSHEGnaSHADneDOUBLE naPLUTAiaHEAD MARK WITH MOON AND SUN AND TRIPLE FLAMEífèa",
  "iaTERMINAL MARK-1wa2~11AB0aaCANADIAN SYLLABICS NATTILIK HIãaIâaOãaOâaAãaAáaSHRIåaIäaOåaOäaAåaA",
  "taSPEvaIvaOvaAacPAU CIN HAU LETTER tbKtbLtbMtbDtbZtbVtbNGtbHtbGtbKHtbStbBtbCtbTubHtbNtbPHtbRtbF",
  "tbCHtbtaEtaItaOtaUuaAtbItaFINAL PzaKzaTzaMzaNzaLzaWzaNGzaY!mcRISING TONE LOxamaSANDHI GLOTTAL STOP",
  "$áa FINALyf$äa FINAL(mkSANDHIxa&mqSANDHIyf$mfMID-LEVELmaGLOTTAL STOP VARIANT%mqMID-LEVELàf",
  "<mnLOW-FALLáa&ya$æa FINALâf<ms~11C00aaBHAIKSUKI LETTER AsaAraIsaIraUsaUraVOCALIC RßaRzaL~11C0AraE",
  "raAIraOraAUraKAsbHrbGsbHrbNGrbCsbHrbJsbHrbNYrbTTtbHrbDDtbHrbNNrbTsbHrbDsbHrbNrbPsbHrbBsbHrbMrbYrbR",
  "rbLrbVrbSHsbSsbrbHkbVOWEL SIGN AvaIwaIvaUwaUvaVOCALIC RãaRâaL~11C38vaEvaAIvaOvaAUkbSIGN CANDRABIND",
  "paANUSVARApbVISARGrbRAMpbAVAGRAHkbDANDleOUBLE DkaWORD SEPARATORkaGAP FILLER-1va2~11C50kaDIGIT ZERO",
  "qaONEqaTWOraHREEqaFOURraIVEqaSIXraEVENqaEIGHT*qcNI+keNUMBERraTWOsaHREEraFOURsaIVEraSIXsaEVEN",
  "raEIGHT*rcNI$rcTsaWENTYscHIRrdFOscIFrcSIX+waTY+waY+vaTYkaHUNDREDS UNIT MARK~11C70afMARCHEN HEAD",
  "iaMARK SHADiaLETTER KAqbHpbGpcNpbCqbHpbJpbNYpbTqbHpbDpbNpbPqbHpbBpbMpbTSrbHpbDZpbWpbZHqbpb-pbYpbR",
  "pbL+pdqbpbHpb~11C92ibSUBJOINED LETTER KßbHzbGzcNzbCßbHzbJzbNYzbTßbHzbDzbNzbPßbHzbBzbMzbTSàbHzbDZ",
  "zbWzbZHßb~11CA9zbYzbRzbL*zdßbzbHzbibVOWEL SIGN AtaItaUtaEtaO.jcIGN ANUSVAnaCANDRABINDU",
  "~11D00*cjSARAM GONDIwaAvaIwaIvaUwaUvaE~11D08vaAIvaO~11D0BvaAUvaKAwbHvbGwbHvbNGvbCwbHvbJwbHvbNYvbTT",
  "xbHvbDDxbHvbNNvbTwbHvbDwbHvbNvbPwbHvbBwbHvbMvbYvbRvbLvbVvbSHwbSwbvbHvbLL%vdKvbJNYvbTR",
  "obVOWEL SIGN AzaIßaIzaUßaUzaVOCALIC R~11D3AzaE~11D3CzaAIzaO~11D3FzaAU.ocSIGN ANUSVAtbVISARGtbNUKT",
  "tbCANDRtbHALANTobVIRAMobREPHpbA-KAR~11D50oaDIGIT ZEROuaONEuaTWOvaHREEuaFOURvaIVEuaSIXvaEVENuaEIGHT",
  "*ucNI~11D60aaGUNJALA GONDI LETTER AwaAvaIwaIvaUwaU~11D67vaEEvaAI~11D6AvaOOvaAUvaYAvbVvbBwbHvbMvbK",
  "wbHvbTwbHvbLvbGwbHvbDwbHvbNvbCwbHvbTTxbHvbLLvbJwbHvbDDxbHvbNGvbPwbHvcvbRvbSobVOWEL SIGN AzaIßaIzaU",
  "ßaU~11D90zaEEzaAI~11D93zaOOzaAU.ocSIGN ANUSVAtbVISARGobVIRAMoaOM~11DA0oaDIGIT ZEROuaONEuaTWOvaHREE",
  "uaFOURvaIVEuaSIXvaEVENuaEIGHT*ucNI~11EE0aaMAKASAR LETTER KApbGpcNpbPpbBpbMpbTpbDpbNpbCpbJpbNYpcpbR",
  "pbLpbVpbSpbibANGKiaVOWEL SIGN ItaUtaEtaOiaPASSIMBANGiaEND OF SECTION~11FB0aaLISU LETTER YHA",
  "~11FC0aaTAMIL FRACTION ONE THREE-HUNDRED-AND-TWENTIETHtfONE-HUNDRED-AND-SIXtfEIGHtcSIXTY-FOUR",
  "!tfFOR&vaIRTY-SECONDpaTHREE EIGHTIETHSvdSIXTY-FOUR*ui(xaEENTH-1âa2$ucEN,yb)vgTWEN)zdEEN.ucIF",
  "taQUARTER*tcHALFya2&vbQUARTERpaDOWNSCALING FACTOR KIIZHgaSIGN NELlaCEVITUlbAAZHAAKKleUZHlhMUUV",
  "laKURUNI!lfPAT!lgMUKlaKAACU$naNAMmaONlbVARAAKA$ncAR*nbZHlbVELgaWET CULTIVATION SIGNgrDRYgfLAND",
  "gfSALT PANgfTRADITIONAL CREDITsfNUMBERgfCURRENTgfAND ODD!giSPgfTOTAL+giIN POSSESSgfSTARTING FROM",
  ";laMUTHALIYAlbVAKAIYARA~11FFFgaPUNCTUATION END OF TEXT"]

end Conductor.CharName
