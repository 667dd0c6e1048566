/-! The names of cuneiform signs, hieroglyphs and the parts of ideographs. -/

namespace Conductor.CharName

def glyphs : List String := [
  "~12000aaCUNEIFORM SIGN Aqa TIMES AxaBADxaGAN2 TENUxaHAxaIGI$xcLAGAR GUxaMUSHxaSAGqa2qaB",
  "ra TIMES ASH2yaDUN3 GUNUyaGAL.qqByaHA%yfIGIzaMINyaLAGAByaSHESHyaU PLUS U PLUS U&sera2",
  "sa TIMES BALAG,rq2zaME PLUS ENzaSHA3zaTAK4qaDqaKra TIMES ERIN2yaSHITA PLUS GISHqaLra TIMES AL",
  "yaDIM2yaGISHyaHAyaKAD3zaIyaSHE&ycUraANraEPHqaMAR&qkMARqaNra OVER ANsaTHREE TIMES",
  "saPLUS NAGA OPPOSING AN PLUS NAGAáaSQUARED(qdNqaPINqaRADta TIMES KURraKABqaSAL2raHsa ZIDA TENU",
  "tgKABtaOVER ASH TUG2 OVER TUG2 TUG2 OVER TUG2 PAPáaOVER ASHéa CROSSING ASH OVER ASH OVER ASHsa2",
  "saGABpaBAraDraG3raHAR2raLsa OVER BALsaAGraRsaA2qaIra TIMES AyaGARyaIGI GUNUqbra OVER BU ABßaUN",
  "saCROSSING BUraLUGua OVER BULUGraRsa2paDAraGsa KISIM5 TIMES A PLUS MASHæaMARåaBALAGæaIåaGA&ålGæaI",
  "çaR2æaUDåaHAåaIRça PLUS LUåaKAKåaLAæaUça PLUS MASH2çaMåaNEåaPAP PLUS PAPåaSIåaTAK4<åeU2 PLUS æaSH",
  "raMraRsaA3ta4qaIraBraMsa TIMES SHEsa2raNsa KASKAL U GUNU DISHrcqaUra OVER DUsbGUNsaSHESHIGraB",
  "sa TIMES ESH2sbraGsaUDraHraNsa3,rfN3ya GUNUsa4raR2paEqa TIMES PAPraOVER E NUN OVER NUNqa2",
  "ra TIMES A PLUS HA PLUS DAyaGARyaMIyaSALzaHEyaUqaDINqaGIRqaLqaNra TIMES GAN2áa TENUyaME",
  "saCROSSING ENshOPPOsaSQUARED!qcRraIN2qbSH$qcZta TIMES Aàa PLUS LALéa TIMES LALàaNßaBADßaDUN3 GUNU",
  "èa GUNUßaHA!ßfHAßfIGI*ßcKASKåa SQUAREDàaU3ßaLA:ßnàaIàaUßaU2àaDpaGA:pgGra2",
  "sa TIMES A PLUS DA PLUS HAåcåaIGIßaB2 TENU PLUS TABßaNßaSHáa2 PLUS GALzaBADàaR PLUS RAßaUR!ßjUzbD",
  "ßaIàaM TIMES SHEßaUBzaELàa PLUS LAßaNàa TIMES GAN2 TENUzjàaRßaIàa4áa PLUS AàaR2 PLUS SU",
  "zaHA PLUS LU PLUS ESH2àaL.zjHAßaI PLUS LIßaUB2.zcIGI GUßaSH PLUS HU PLUS ASHzaKAKàaSKALßaID",
  "áa PLUS LALßaU3 PLUS AN,zczaME PLUS ENßaIzaNUNáa OVER NUNzaPA*zcSàaRßaHEáa PLUS TURàaIDßaUMzaTAK4",
  "zaUßaDàa PLUS DUtaOVER GA2raBAta CROSSING GABAraDsa OVER GAD GAR OVER GARraL!rxL GAsaAMrbraNsa2",
  "ta TENUuaOVER GAN2ufCROSSINGraRsa3raSHANqbESHTIwa TIMES KURqaIra TIMES EyaUsaCROSSING GIra4",
  "sa OVER GI4teCROSSINGraDIMraR2ta GUNUsa3ta TIMES A PLUS IGIßaGAN2 TENU!ßd$ßjLUßaPAraSALsaH",
  "ta CROSSING GISHuaTIMES BADßaTAK4vaENUqbra CROSSING GUra2sa TIMES KAKáa TIMES IGI GUNUzaNUN",
  "zaSAL PLUS TUG2$teraDsa TIMES A PLUS KURzdtaOVER GUD LUGALrbraMsa TIMES SHEraRsa7saUNtaSHpaHA",
  "ra TENUscGUraLqaIra TIMES ASHàa2yaBAD$ycDI!ycGyaKINybNUyaSHEyaUqbraB2ta TIMES ANßaHALßcKASKßaLISH",
  "ßaUDraL2paIqa AqaBqaDIMta OVER IDIM BURãaSQUAREDqaGraIsa DIBtaRI",
  "taOVER IGI SHIR OVER SHIR UD OVER UDtaGUNUqaLra TIMES GAN2 TENUra2qaMra TIMES TAK4saCROSSING IM",
  "shOPPO<qjraINqbqaRqaSHpaKAra TIMES AzaDßa PLUS KU3zaSH2$ycBßaLAGßaRzaIyaERIN2zbSHyaGAßaLßaN2 TENU",
  "ßaRàa PLUS SHA3 PLUS AzaIßaR2%zcISH PLUS SâaCROSSING GISHzaUßaR7(ycIzaMyaKAKzaIßaDyaLIzaUyaME",
  "ßa PLUS DUåaGIåaTEzaIßa PLUS NUNUZyaNEzaUNyaPIyaRUyaSAßaRzaHAßaEßaIDßaUzaIGzaUHURybTAyaUza2zaD",
  "zaMUM TIMES PAzaSHyaZIra2sa CROSSING KA2raBraD2sa3sa4sa5ta OVER KAD5raKsa TIMES IGI GUNUraL",
  "sa TIMES BADtaCROSSING KALraM2sa4$rdSva LAGAB TIMES U OVER LAGAB TIMES UwåOVER KASKAL qaESH2qaI",
  "+qkIyaUzaDrbraNraSALsaHsaIM5va OVER KISIM5qaU:qdU OVER HI TIMES ASH2 KU OVER HI TIMES Ara3ra4",
  "sa VARIANT FORMra7raLsa GUNUraNraRsa OPPOSING KURraSHU2qaWU318paLAraGABua TIMES A",
  "áa PLUS DA PLUS HAçaGARçaLALábáaNáaSH ZIDA TENUàaBADáaI)àcDàaENàaGAâaRáaUDãa PLUS GUD<àcâaL",
  "áaI TIMES NUN:àcIGI GUáaMâa PLUS HAèaLUàaKIâaNáaU3âaLãa PLUS HI PLUS AàaLAGABáaISHáaUâaLàaME",
  "âa PLUS ENáaUSHàaNEàaSHE PLUS SUMâaITA PLUS GISH PLUS ERIN2ðaTENUâaU2äa PLUS SHU2&ácàaTAGâaK4",
  "áaE PLUS A PLUS SU PLUS NAàaUáa PLUS AçaU PLUS Uáa2 PLUS ASHáaD!ácvaSQUAREDtaRua TIMES SHE",
  "ãa PLUS SUMvaGUNUza OVER LAGAR GUNU SHEraHSHUraLsa TIMES LALraMsa TIMES KURáa PLUS RUqaIraLraMMU2",
  "raSHqaUra TIMES BADra2sa TIMES AL$rk2zaESH2âa TENUzgGAN%zdHI TIMES zaIMzaKAD2áa3âa PLUS ASHßaI",
  "!zjLAàaGABzaME PLUS ENzaNE.zc&zjSIàaK2 PLUS BUzaTUG2=udtaCROSSING LU2tiOPPOtaSQUAREDuaHESHIGra3",
  "raGALua OVER LUGALwgPPOSING&riGALraHraLraMsa OVER LUMàa GAR OVER GARpaMAra TIMES TAK4saGUNUra2raH",
  "raRraSHta2qaEraSqaIraNqaUra OVER MUraG;qfUGraNSUBraRGU2raSHta TIMES AßaKURßaZAuaOVER MUSH",
  "âa TIMES A PLUS NA!ufCROSSINGta3)ti3áa PLUS DIàcvaGUNU)pcra2raGAta INVERTEDuaTIMES SHU TENU",
  "uaOPPOSING NAGAtaRraM NUTILLUsasa2qaE=piNEyaUDsaSHESHIGqaIra TIMES Era2raM<qfIM TIMES GAN2",
  "àhR PLUS GAraNDA2va TIMES ANâaSHäa PLUS ASHáaGUD(rpNDA2 TIMES MEáaNEâaUNáaSHEäa PLUS A ANëaSH",
  "ía PLUS ASHájU2âcraSAGqaUra11raNsa LAGAR TIMES GARäaMASHäaSALça OVER NUN LAGAR TIMES SAL$äcUtaTENU",
  "taOVER NUNteCROSSINGäa LAGAR OVER LAGARsaUZua AB2 TIMES ASHGABäaBIäaDUGäaGUDäaIGI GUNUäaKAD3äaLA",
  "äaNEäaSILA3äaU2+vjKISIM5éa UpaPAraDraNraPqaESH2qaIra TIMES AzaByaBIzaUyaEyaIzaByaUza2saCROSSING PI",
  "raRIGua TIMES KALàaUDàaZAvaOPPOSING PIRIGpaRAraBqaIqaUpaSAraG NUTILLUsasa TIMES AzaDUàaBzaHAzaKAK",
  "ßaURzaLUMzaMIzaNUNzaSALßaHIDzaTABzaU2.zc*zc,zcßaSHtaOVER SAGtaGUNUraLsa LAGAB TIMES ASH2rbNGAraR",
  "qaHAsa3ta TIMES AßaBADßaGISHßaNEßaSHU2ßaTURßaUàa PLUS Asa6sbBsaR2raEsa HU",
  "taOVER SHE GAD OVER GAD GAR OVER GARánTAB OVER TABsaG9saNsaSHua2uaLAMraIDta TIMES AßaIMsb$siMßaBAL",
  "àaULUGßaDINßaGARßaIGIâa GUNUßaKUSHU2ßaLUL)ßcM+ßcSsaNIGsaRta TENUuaOVER SHIR BUR OVER BURsaTAraU",
  "sa OVER INVERTED SHUsa2&rdUqaI=qgraGsa4ta OVER SIG4 SHU2rbKraLA3qaUra OVER SUraDsa2raHURraMsaASH",
  "raRsa9paTAra ASTERISKsaTIMES HIybMsaGUNUraBsa OVER TAB NI OVER NI DISH OVER DISHtaSQUAREDraG",
  "sa TIMES BIzaGUDzaSHEàaUzaTUG2%zcraK4raRqaE<qfEqaIra TENUraLraRsa TIMES TAK4taOVER TIR",
  "àa GAD OVER GAD GAR OVER GARqaU<qdraKraMraRsa OVER TUR ZA OVER ZApaUqa GUDraU U",
  ",pnU OVER U PA OVER PAybSUR OVER SUyaU REVERSED OVER U REVERSEDqa2qaBqaDra KUSHU2saTIMES BADyaMI",
  "yaU PLUS U PLUS Uìa GUNUsesaSHESHIG(sjSHESHIG raUGqaMra TIMES LAGAByaME PLUS DAyaSHA3yaUraBINraUM",
  "ta TIMES KASKALßaPAqaN<qfNqaRra CROSSING UR>qiRra2sa TIMES A PLUS HAåbNßaL$zczaNUNzaU2àa PLUS ASH",
  "æaBIra4raIsa3raUsa TIMES AßaSHGABzaBARzaDUNzaGAàaLàaN2 TENUàaRßaUzaHAzaIGIßaMßaSHzaKIzaLUMzaMIN",
  "zaPAzaSHEßaIG4zaTUzaU PLUS GUDßbßaRUDAscua TIMES U;qcsa TIMES AzaKUàaRzaTAK4saXsa2saUMXqaTUKIqaZ3",
  "sa TIMES KASKALraUpaZAra TENU.pkZA SQUAREDraGraMXqaE2qaIra OVER ZIra3raB+qgIB KABraGraZ2qaUra5",
  "sa TIMES AraBURraMpaKAP ELAMITEpaAB TIMES NUN&piAB2qaMAR TIMES KUGpaDAG KISIM5 TIMES U2 PLUS MASH",
  "sa3qaISH PLUS SHUqaUB TIMES SHEpaEZEN TIMES GUDßaSHE*pdGA2 TIMES AN PLUS KAK PLUßaSH2qbE2qaIG,pcHU",
  "(pdKA TIMES ANzaSH3yaGISHzaUD*plKA TIMES HIyaLUMyaPAyaSHULyaTUyaUR2paLAGAB TIMES GI",
  "qaU2 SHESHIG TIMES BADtaTIMES ESH2 PLUS LALzaSHU:pcMEqaUSH3 TIMES ZApaNA4qaINsa9saDA2 TIMES BAL",
  "áaGIqaU11 ROTATED NINETY DEGREESpaPESH2 ASTERISKqaIR2paSAG TIMES IGI GUNUpaTI2paUM TIMES MEqa U",
  "~12400<kcNUMERIC SIGN TWO AyeHREExeFOURyeIVExeSIXyeEVENxeEIGHTxeNINE)âcDIxfFOURyfIVExfSIXyfEVEN",
  ")âcDIxfNINE(áaUycIVExcSIX(âaU(âaU(áaUxaONE GESH2xgTWOygHREExgFOURygIVExgSIXygEVENxgEIGHT*xiNI+äaU",
  "xgTWO+æaU+åaUygIVE;àbSHARygHREEça VARIANT FORM!xgFOURygIVExgSIXygEVENxgEIGHTxgNINE<àbSHARxgTWO+æaU",
  ",ænU,åaUygIVExaSHAR2 TIMES GAL PLUS DISHñaMIN*àcBUxfTWOyfHREE*âpBU*ácBUyfIVE$âaVARIANT FORM ESH16",
  "òa21%ábVARIANT FORM LIMMóa4óa AôaBxaSIX VARIANT FORM ASH9yaEVEN VARIANT FORM IMIN3óa AôaB",
  "xaEIGHT VARIANT FORM USSUóa3,xfNINE VARIANT FORM Iôa3ôa4ôa AxaTWO ASH TENUyjHREExjFOURyjIVExjSIX",
  "xaONE BAN2xfTWOyfHREExfFOURåa VARIANT FORM!yfIVE!ysIVE;zaGIDAMINâaESH+àaESHE3xgTWO!àaTHIRD DISH",
  "xfTWO THIRDSxgFIVE SIXTH$æaVARIANT FORM AxpTWO THIRDS&àcEIGHTH AàeQUARTERybLD ASSYRIAN ONE SIXT",
  "íaQUARTER$èaGURàeHALFxaELAMITE ONE THIRDäaTWO THIRDSäaFORTYåcIFxaFOUR U VARIANT FORMypIVExpSIX",
  "ypEVENxpEIGHTxpNINE~12470;kcPUNCTUATION SIGN OLD ASSYRIAN WORD DIVIDàaVERTICAL COLONàiDIAGONéfTRI",
  "éfQUAD~12480kaSIGN AB TIMES NUN TENUyaSHU2qbD TIMES ESH$pfBAD TIMES DISHraHAR2 TIMES AB2áaNIáaZA",
  "qaU OVER BU TIMES NA2paDA TIMES TAK4raG TIMES KURqaIM TIMES IGIzaU U Usa2 TIMES UDqaUG TIMES ANSHE",
  "ßaSHáa AT LEFTzaDINßbUzaERIN2zaGAßaIàaR2 GUNUàaSHzaHAßaI%zfIGIzaKASKALßaURàaSHU2äa PLUS KASKAL",
  "zaLAK-020àaMáa TIMES KUR.zeLUH PLUS zcMAßaESßaIzbNzbPzaSHE=zgS+pkE2yaPAPqaRIN2 X",
  "qaSH2 CROSSING ESH2.pdEZEN SHESHIG TIMES çaHIçaIGI GUNUçaLAéaLçaMEéaSçaSUuipaGA2 TIMES BAHAR2",
  "zaDIM GUNUßfUG TIMES IGIèaKASKALzaERENzaGAàaR PLUS DIçaNEzaHA PLUS A(ziKUSHU2 PLUzaLAMáa TIMES KUR",
  "ßaUHzbMUS)zcàa PLUS E2æaGIzaSHIMzaZIZ2raBA ROTATED NINETY DEGREESqaESHTIN TIMES U",
  "*qcISH TIMES GISH CROSSING GIqaU2 TIMES IGI GUNUraD PLUS GISH TIMES TAK4!pfHA TENU",
  "qaI TIMES ASH OVER HI TIMES ASHpaKA TIMES BUyaKAyaU U UzaRpaLAGAB TIMES ZU OVER ZUraK-003ua21va5",
  "ua30ub5va1ua62ua79 OVER LAK-079 GUNUua80va1 OVER LAK-081ua92*tc1ua42ta210va9ua20va5va8ub3ua65va6",
  "ta343va7va8ua83va4ua90ta441va9wa TIMES GUâaIGIâaPAP PLUS LU3ëdPAP PLUS âaU2 PLUS BAua50va7ua70ua83",
  "ua90va2va3va5*tc5ta608ua17wa TIMES ASHâaBADâaDUN3 GUNU GUNUâaKU3âaLAâaTARãaEâaU2ãaDãaRUDAua36ua48",
  "wa TIMES DUBâaGAâaIGIåa GUNUâaNIâaPAP PLUS PAP PLUS LU3âaSHESH PLUS KIâaUD.um48ta724ua49",
  "qaU2 GUNU TIMES ASHtcTIMES DIzaHALzaPAP,qáU2zaTAK4paMI PLUS ZA7qaUSH OVER MUSH TIMES GAéaKAK",
  "paNINDA2 TIMES DIM GUNUáaGISHâaULáaHIáaKESH2áaLAK-050&ácMAáaPAP PLUS PAPáaUâa PLUS UâaRUDA",
  "pbSAG GUNU TIMES HtaTIMES ENzaSHE AT LEFTzaTAK4qaHA6 TENUraE OVER SHEtaPLUS HUB2ybNAMyaSAR",
  "raU2 PLUS DUG TIMES NIzaE2 TIMES AN*qlIpaTAK4 PLUS SAG+pfTUM TIMES GAN2zaTHREE DISHpaUR2 INVERTED",
  "tbTIMES UraU TIMES DARA3zaLAK-668ßaU3paZA7;pjZU OVER ZU+pfZU5 TIMES THREE DISH",
  "~12F90baYPRO-MINOAN SIGN CM001wa2wa4wa5wa6wa7wa8wa9va10wa1wa2xaBwa3wa5wa7wa9va21wa3wa4wa5wa6wa7wa8",
  "wa9va30wa3wa4wa5wa6wa7wa8wa9va40wa1wa4wa6wa7wa9va50wa1wa2wa3wa4wa5wa6wa8wa9va60wa1wa2wa3wa4wa6wa7",
  "wa8wa9va70wa1wa2wa3wa4wa5xaBwa6wa8wa9va80wa1wa2wa3wa4wa5wa6wa7wa8wa9va90wa1wa2wa4wa5wa6wa7wa8wa9",
  "ua100wa1wa2wa3wa4wa5wa7wa8wa9va10wa2wa4.uc3wa2~13000!acEGYPTIAN HIEROGLYPH A0xa2xa3xa4xa5yaAxa6yaA",
  "yaBxa7xa8xa9wa10xa1xa2xa3xa4yaAxa5xa6xa7yaAxa8xa9wa20xa1xa2xa3xa4xa5xa6xa7xa8xa9wa30xa1xa2yaAxa3",
  "xa4xa5xa6xa7xa8xa9wa40yaAxa1xa2yaAxa3yaAxa4xa5yaAxa6xa7xa8xa9wa50xa1xa2xa3xa4xa5xa6xa7xa8xa9wa60",
  "xa1xa2xa3xa4xa5xa6xa7xa8xa9wa70uaB001xa2xa3xa4xa5yaAxa6xa7xa8xa9,udCxa2yaAyaByaCxa3xa4xa5xa6xa7xa8",
  "xa9wa10yaAxa1xa2xa3xa4xa5xa6xa7xa8xa9wa20xa1xa2xa3xa4uaD001xa2xa3xa4xa5xa6xa7xa8yaAxa9wa10xa1xa2",
  "xa3xa4xa5xa6xa7xa8xa9wa20xa1xa2xa3xa4xa5xa6xa7yaAxa8xa9wa30xa1yaAxa2xa3xa4yaAxa5xa6xa7xa8xa9wa40",
  "xa1xa2xa3xa4xa5xa6yaAxa7xa8yaAxa9wa50yaAyaByaCyaDyaEyaFyaGyaHyaIxa1xa2yaAxa3xa4yaAxa5xa6xa7xa8xa9",
  "wa60xa1xa2xa3xa4xa5xa6xa7yaAyaByaCyaDyaEyaFyaGyaHuaE001xa2xa3xa4xa5xa6xa7xa8yaAxa9yaAwa10xa1xa2xa3",
  "xa4xa5xa6yaAxa7yaAxa8xa9wa20yaAxa1xa2xa3xa4xa5xa6xa7xa8yaAxa9wa30xa1xa2xa3xa4yaAxa6xa7xa8uaF001yaA",
  "xa2xa3xa4xa5xa6xa7xa8xa9wa10xa1xa2xa3yaAxa4xa5xa6xa7xa8xa9wa20xa1yaAxa2xa3xa4xa5xa6xa7xa8xa9wa30",
  "xa1yaAxa2xa3xa4xa5xa6xa7yaAxa8yaAxa9wa40xa1xa2xa3xa4xa5yaAxa6yaAxa7yaAxa8xa9wa50xa1yaAyaByaCxa2xa3",
  "uaG001xa2xa3xa4xa5xa6yaAxa7yaAyaBxa8xa9wa10xa1yaAxa2xa3xa4xa5xa6xa7xa8xa9wa20yaAxa1xa2xa3xa4xa5xa6",
  "yaAxa7xa8xa9wa30xa1xa2xa3xa4xa5xa6yaAxa7yaAxa8xa9wa40xa1xa2xa3yaAxa4xa5yaAxa6xa7xa8xa9wa50xa1xa2",
  "xa3xa4uaH001xa2xa3xa4xa5xa6yaAxa7xa8+udIxa2xa3xa4xa5yaAxa6xa7xa8xa9yaAwa10yaAxa1yaAxa2xa3xa4xa5",
  "uaK001xa2xa3xa4xa5xa6xa7xa8*udLxa2yaAxa3xa4xa5xa6yaAxa7xa8,udMyaAyaBxa2xa3yaAxa4xa5xa6xa7xa8xa9",
  "wa10yaAxa1xa2yaAyaByaCyaDyaEyaFyaGyaHxa3xa4xa5yaAxa6yaAxa7yaAxa8xa9wa20xa1xa2yaAxa3xa4yaAxa5xa6xa7",
  "xa8yaAxa9wa30xa1yaAxa2xa3yaAyaBxa4xa5xa6xa7xa8xa9wa40yaAxa1xa2xa3xa4uaN001xa2xa3xa4xa5xa6xa7xa8xa9",
  "wa10xa1xa2xa3xa4xa5xa6xa7xa8yaAyaBxa9wa20xa1xa2xa3xa4xa5yaAxa6xa7xa8xa9wa30xa1xa2xa3yaAxa4yaAxa5",
  "yaAxa6xa7yaAxa8xa9wa40xa1xa2vaL001ya2ya3ya4ya5zaAya6ya7ya8ya9xa10ya1ya2ya3ya4ya5ya6ya7zaAya8ya9",
  "xa20vaU001ya2ya3ya4ya5ya6ya7ya8ya9xa10zaAya1zaAya2ya3ya4ya5ya6ya7ya8zaAya9xa20ya1ya2zaAuaO001yaA",
  "xa2xa3xa4xa5yaAxa6yaAyaByaCyaDyaEyaFxa7xa8xa9wa10yaAyaByaCxa1xa2xa3xa4xa5xa6xa7xa8xa9yaAwa20yaAxa1",
  "xa2xa3xa4yaAxa5yaAxa6xa7xa8xa9yaAwa30yaAxa1xa2xa3yaAxa4xa5xa6yaAyaByaCyaDxa7xa8xa9wa40xa1xa2xa3xa4",
  "xa5xa6xa7xa8xa9wa50yaAyaBxa1ubP00yaAxa2xa3yaAxa4xa5xa6xa7xa8xa9wa10xa1;udQxa2xa3xa4xa5xa6xa7)udR",
  "xa2yaAxa3yaAyaBxa4xa5xa6xa7xa8xa9wa10yaAxa1xa2xa3xa4xa5xa6yaAxa7xa8xa9wa20xa1xa2xa3xa4xa5xa6xa7xa8",
  "xa9uaS001xa2yaAxa3xa4xa5xa6yaAxa7xa8xa9wa10xa1xa2xa3xa4yaAyaBxa5xa6xa7yaAxa8xa9wa20xa1xa2xa3xa4xa5",
  "xa6yaAyaBxa7xa8xa9wa30xa1xa2xa3xa4xa5yaAxa6xa7xa8xa9wa40xa1xa2xa3xa4xa5xa6uaT001xa2xa3yaAxa4xa5xa6",
  "xa7yaAxa8yaAxa9yaAwa10xa1yaAxa2xa3xa4xa5xa6yaAxa7xa8xa9wa20xa1xa2xa3xa4xa5xa6xa7xa8xa9wa30xa1xa2",
  "yaAxa3yaAxa4xa5xa6uaU001xa2xa3xa4xa5xa6yaAyaBxa7xa8xa9wa10xa1xa2xa3xa4xa5xa6xa7xa8xa9wa20xa1xa2xa3",
  "yaAxa4xa5xa6xa7xa8xa9yaAwa30xa1xa2yaAxa3xa4xa5xa6xa7xa8xa9wa40xa1xa2uaV001yaAyaByaCyaDyaEyaFyaGyaH",
  "yaIxa2yaAxa3xa4xa5xa6xa7yaAyaBxa8xa9wa10xa1yaAyaByaCxa2yaAyaBxa3xa4xa5xa6xa7xa8xa9wa20yaAyaByaCyaD",
  "yaEyaFyaGyaHyaIyaJyaKyaLxa1xa2xa3yaAxa4xa5xa6xa7xa8yaAxa9yaAwa30yaAxa1yaAxa2xa3yaAxa4xa5xa6xa7yaA",
  "xa8xa9wa40yaAuaW001xa2xa3yaAxa4xa5xa6xa7xa8xa9yaAwa10yaAxa1xa2xa3xa4yaAxa5xa6xa7yaAxa8yaAxa9wa20",
  "xa1xa2xa3xa4yaAxa5uaX001xa2xa3xa4yaAyaBxa5xa6yaAxa7xa8yaA:udYyaAxa2xa3xa4xa5xa6xa7xa8+udZxa2yaAyaB",
  "yaCyaDxa3yaAyaBxa4yaAxa5yaAxa6xa7xa8xa9wa10xa1xa2xa3xa4xa5yaAyaByaCyaDyaEyaFyaGyaHyaIxa6yaAyaByaC",
  "yaDyaEyaFyaGyaHuaAA001ya2ya3ya4ya5ya6ya7zaAzaBya8ya9xa10ya1ya2ya3ya4ya5ya6ya7ya8ya9xa20ya1ya2ya3",
  "ya4ya5ya6ya7ya8ya9xa30ya1ya2~13430uaVERTICAL JOINERujHORIZONTuaINSERT AT TOP STARTãgBOTTOM!çaEND",
  "!êaENDuaOVERLAY MIDDLEuaBEGIN SEGMENTuiEND~14400aaANATOLIAN HIEROGLYPH A001ya2ya3ya4ya5ya6ya7ya8",
  "ya9xa10zaAya1ya2ya3ya4ya5ya6ya7ya8ya9xa20ya1ya2ya3ya4ya5ya6zaAya7ya8ya9xa30ya1ya2ya3ya4ya5ya6ya7",
  "ya8ya9zaAxa40ya1zaAya2ya3ya4ya5zaAya6zaAzaBya7ya8ya9xa50ya1ya2ya3ya4ya5ya6ya7ya8ya9xa60ya1ya2ya3",
  "ya4ya5ya6zaAzaBzaCya7ya8ya9xa70ya1ya2ya3ya4ya5ya6ya7ya8ya9xa80ya1ya2ya3ya4ya5ya6ya7ya8ya9xa90ya1",
  "ya2ya3ya4ya5ya6ya7zaAya8zaAya9wa100zaAya1zaAya2zaAya3ya4zaAzaBzaCya5zaAzaBya6ya7zaAzaBzaCya8ya9",
  "xa10zaAzaBya1ya2ya3ya4ya5zaAya6ya7ya8ya9xa20ya1ya2ya3ya4ya5zaAya6ya7ya8ya9xa30ya1ya2ya3ya4ya5zaA",
  "ya6ya7ya8ya9xa40ya1ya2ya3ya4ya5ya6ya7ya8ya9xa50ya1ya2ya3ya4ya5ya6ya7ya8ya9xa60ya1ya2ya3ya4ya5ya6",
  "ya7ya8ya9xa70ya1ya2ya3ya4ya5ya6ya7ya8ya9xa80ya1ya2ya3ya4ya5ya6ya7ya8ya9xa90ya1ya2ya3ya4ya5ya6ya7",
  "ya8ya9wa200ya1ya2zaAzaBya3ya4ya5ya6ya7zaAya8ya9zaAxa10ya1ya2ya3ya4ya5zaAya6zaAya7ya8ya9xa20ya1ya2",
  "ya3ya4ya5ya6ya7zaAya8ya9xa30ya1ya2ya3ya4ya5ya6ya7ya8ya9xa40ya1ya2ya3ya4ya5ya6ya7ya8ya9xa50ya1ya2",
  "ya3ya4ya5ya6ya7ya8ya9xa60ya1ya2ya3ya4ya5ya6ya7zaAya8ya9xa70ya1ya2ya3ya4ya5ya6ya7ya8ya9xa80ya1ya2",
  "ya3ya4ya5ya6ya7ya8ya9zaAxa90ya1ya2ya3ya4zaAya5ya6ya7ya8ya9zaAwa300ya1ya2ya3ya4ya5ya6ya7ya8ya9zaA",
  "xa10ya1ya2ya3ya4ya5ya6ya7ya8ya9xa20ya1ya2ya3ya4ya5ya6ya7ya8ya9zaAxa30ya1ya2AzaBzaCya3ya4ya5ya6zaA",
  "zaBzaCya7ya8ya9xa40ya1ya2ya3ya4ya5ya6ya7ya8ya9xa50ya1ya2ya3ya4ya5ya6ya7ya8ya9zaAxa60ya1ya2ya3ya4",
  "zaAya5ya6ya7ya8zaAya9xa70ya1zaAya2ya3ya4ya5ya6ya7ya8ya9xa80ya1zaAya2ya3 RA OR RIzaAya4ya5ya6zaAya7",
  "ya8ya9xa90ya1ya2ya3 EIGHTya4ya5ya6ya7ya8ya9wa400ya1ya2ya3ya4ya5ya6ya7ya8ya9",
  "xa10 BEGIN LOGOGRAM MARKzoA ENDya1ya2ya3ya4ya5ya6ya7ya8ya9xa20ya1ya2ya3ya4ya5ya6ya7ya8ya9xa30ya1",
  "ya2ya3ya4ya5ya6ya7ya8ya9xa40ya1ya2ya3ya4ya5ya6ya7ya8ya9xa50zaAya1ya2ya3ya4ya5ya6ya7zaAya8ya9xa60",
  "ya1ya2ya3ya4ya5ya6ya7ya8ya9xa70ya1ya2ya3ya4ya5ya6ya7ya8ya9xa80ya1ya2ya3ya4ya5ya6ya7ya8ya9xa90ya1",
  "ya2ya3ya4ya5ya6ya7wa501ya2ya3ya4ya5ya6ya7ya8ya9xa10ya1ya2ya3ya4ya5ya6ya7ya8ya9xa20ya1ya2ya3ya4ya5",
  "ya6ya7ya8ya9xa30~16800aaBAMUM LETTER PHASE-A NGKUE MFONvdGBIEE vaPON MFON PIPAEMGBIEEéaBA%wfAA",
  "vaSHUENSHUET!vgTITvgNZ$xaINDA PA NJI)zmPA NJIëaBA!vfMAEMB!vfTU M;xaANGU$zaVEUXxaNSUAEwaVEUAENGAM",
  "vcSEUNY.wbTOQPEvaKEUKEUTNDAvaNKINDIvaSUU+xaKUENZEUMvaLAPAQwaET KUT)xaAP MFAA:yaKEUP:vcPASH",
  "vcGHEUAER!xeMvaMON NGGEUAETvbNZUN MEU$vcU YUQ N&àcGHEU+ßcNTvbSISvcMGBAwaEUNJOMNDEUQwcOOMPvaKAFA",
  "vbPA LEERAEWvkND:vcPvaMAEMKPEN$wbIKvaPUPvbTUAEveLvaSONJAM(vcTEUTEUW)yaNYI+vcKvcNDAANGGEUAvaKUOQ",
  ">zaEUT)wbHUvaLOMMAEvaFIRIvaROM(wcPvcS)wbAP PIEE(vcSHIRvaNTAP+xcOQ NSHUT YvaNYIT MONGKEUAEQ%vdPAA",
  "vfNKvaUNKNOWNvbNGGE+xaESIvaNJAM!wbBANY*xaET&vcTEUA=xaT,yaM,wbSHIE*yaM)vdvaKAQ%yaA&vcVvaLU=wcwaAQ",
  "vcMB<tcB NSHUvaTU MAEMGBIEEvdSwaET TUvaLOM NTEUM$vcMBA MAELvaKIEEMvaYEURAEvdMBAA$wbAvaPEESHI",
  "vaYAFU LEERAEWA$vcLAM NSHUT NYvaNTIEE SHEUOQwaDU NJAA+vcGHEUGHEUAvaPIT>ydNSvaSHET NJAQyaUAEQTU",
  "vaMFON TEUAEQwaBIT MBAAKETvaNYI NTEUMvaKEUPUQ+áaN!yaYEUX<xaANAE&vcPARvcVEvaNGKINDI MVOPxaGEU MBU",
  ",vcWUA(vcSAKEUvaTAAM.vcME&yaUOQàa LARGE$wbFIYA(wbUvaMBEURIwaONTIEEN&wbYAEMA+vdPUNG+yaT NGGEET",
  "vaFEUX,vdMB!xaEvaKEUAEMvaMA NJEUAENAßbUQ)vcL+veNGwaSEN%xavaKIQ%xbOtaC NGKUE MAEMBAwbZvaYUM",
  "vaWANGKUOQ%xaGENwaDEUAEREE(yaAQvaGHARAEvaMBEEKEETvaGBAYI(wbYIR MKPARAQ MEUwaTU MBIT%yaUM+vcPIRIE",
  "+xaOMBU,vdMBAA CABBAGE-TvaKEUSHEUAEP,yaP!yaKAQ:vcYU MUOM*vdNZ(xbU+vcNSEUA:vevaYEUQ)wcPARwaAAvaSEUX",
  "<xaIDA,vcTAASHvaNJUEQ!wbITA YUvaSUAET;wbGGUAEN NYA)vdV&wbANSANAvaMA KEUAERI+wbTA&zaONvaLAP",
  "vaMBIRIEENwaGBASAQ&xbEUNGB+vdTEUT.zb<vcFvaNDEUTwaSAxaHAQvaBUNG>yaAEPEN.xaERAEvaRU+wbJAEvbLA",
  "vaTITUAEP$wbSUOT NGOwaJEEEEvaKET=zavaMAESI*vdMBUvaLU&wbU.yb+wdvaWUP*zaEET:xcwaTEN)xaOP NKAARAE=yaN",
  "*wcD;xa NSIEEvaYAA$yaPvaSHUEQwaETFONvaMBIwaAEMBA!xbANYvaKEUSEUXvdMB!yaM%yaA PICKETvaYUWOQ%vdNJ<wd",
  "wbUA;xbI)xaN LAWzaFATIGUEvaNGAQwcvbLIvaPINwbE;vcTtaD MBUOvaWAPvaNJIvaMFON!yaEEvdL!xaEUT$wcSH",
  "wbGGAAMAwaYAMvaWUAENvbNGKU&ve!yaAP$vcKEUAETME+vdT%ybUA%wcJ!wbU&xaT:vdYAEMvaKUOM&vcS*vdMFvaNDEUX",
  "vaMALEERI$wdvaSEUAEQvaYEN:xaEUAEM<vdKEUOT MB(vcNGKEUvaTUvaGHAA$yaYEE>vcFEUFEUA!wcDvaMGBOFUM",
  "vaLEUAEP$xaON=wbON%yaEUN>vcPU!yaIEEwaFO*vcL*vcNSIE<vcMB;vdKWvcNYvaTEUAENvaSOTvaYUWOQ*vcKEvbRAE",
  "&xaEEEvaNGKEUAEQ;xaEUAE:ßaT(yaPvbPIwaEUTAEvbNYU&vcL*xaGAAM*xbIE!yaWAEN=xaOM*wbA!yaP(wcDwbTEU=vdS",
  "vaKUN*yaEUXxaKIEEvaTUOT%vcME&xaQ*wcS$vdTvaMAENJET*yaAP:vdL!yaUOMwaSHUTwaJUEQ=vdGHE,xavaREN OLD$vcT",
  "waOQvaNYIvbRI.xaEEEveMwavaSUUvbM(vcSHxaEUX(vcKYvaNUvbSH$vcNTvcP<wb%xaOQvbPUvaMVOP$vcLvaREN MUCH",
  "vaTI+xaUUvaMBAA SEVEN*wbAvaFAAtaE NDAPvaTOONvaMBEUM$vcLvaVOM%vdLvaPAA$vcSvaRAQ+wbSHUOwaDUNvaPUAE",
  "vaTAMvaNGKAvaKPEUXvaWUOvaSEE%xaGEUAET:yaMvaTOO.vdK<vcL;yaIEE<wcGvaMAEM.vdNGKxaOQ&ybUvaRIMGBA%wdJ",
  "(vcPEvaSAA=yaURAE&ve&vdGH,ßaAEMwaJAEMLI;xaPvaLOOT)ybEEEwaDIQvaTAEN NTEUMvaSET!vcP%xaAA SOFTNESS",
  ";zaAESHAE NYAM)vcYI;zaN>vcTUvdYEvaPO$xcM$veKvaSUAENvaTEUAEQ$veVvaWEUX:vcLA=xa&wbAA+vdGHAA>xaEUREUT",
  "*vfSH,vcMGBwaBEE(vcNZwaKOMvaGBETvaTUM!vcKUvaYAPvaNYI CLEAVERvaYITvaMFEUQ+wcDIvbPIEEvcYUvaLEUAEM",
  "vaFUE:yaUXvaNGKUP:wcvaMAE$yaAAMI$vcGHvaFAvaNTUMvaPEUT!vcYE(xaGEUAEwaYI BETWEENwaZUQvaPOON.wbIE>yaT",
  "(wcvcMUvdGHE%xa IvbMVvaPUAQ=wcGK=vcKvbPIEvaNTAP!vcYEUA!wbGGUvaPA PEOPLE,yaCALLwaOM=wbJEvaAvaTOQvaO",
  "vaI=vcL+zaLURALvaTAAxaQ+wbDAA MY HOUSvaSHIQ>yaX$wbGUAvaYUAENwaOQ SWIMMINGzaCOVERwaUQxaN)vdKvdP",
  "vaNJEE EPOCHvaPUEvcWvbFEvcVvaLUvaMI*vdRwaAEvaNGUAETxaAvaSHOyaQvaFU REMEDY%wbvaPI%vcLvaKOvaMENwaA",
  "xaQvaTEUvaKI&wbOvbTE&vcFvaGHOMtaF KAvaUvbKvaEEvcRvbTAvaNYIvaLAvaRIIxaEEvcMEE(xaAvcNDwaJAEMvbvaSUU",
  "waHIIwbwaEUX+vcKYwaET>vcNUxa!wdJvaYOQ+xaUvaYAvbNSH,vdP(wbTEvbWUvbPEvaRUvaNI(vdR=xaNvcNGKWAxaGA;xaO",
  ">vdPvaFOMvaWAvaLIwaOQvaKO+vcMBvcRvaMAwaOwaBAAvaTETvaKPAvbSAMBvaVUEQ~16A40aaMRO LETTER TAlaNGIlaYO",
  "laMIMlaBAlbDlblaPHIlbKHAlaHAO!lcDlaCHUlaKEAAElaOL.mbAElaNINlaPAlaOOmalbR;lcSlaTHEAlclbWlaElaKO",
  "laLANnalaHAIlbRlaTEK~16A60:ecDIGIT ZEkaONEkaTWOlaHREEkaFOURlaIVEkaSIXlaEVENkaEIGHT*kcNI",
  "~16A6EfaANDAfeOUBLE DaaTANGSA LETTER OZpaCpaQpaXoaAZpaCpaQpaXoaVZpaCpaQpaXoaEZpaCpaQpaXoaIZpaCpaQ",
  "paXoaUZpaCpaQpaXoaAWZqaCqaQqaX*pbIqaCqaQqaXoaFINAL NGoaLONG UEXoaSHORT UEZuaAWX)pbEqaZqaQqaX:qbU",
  "raCraQraXoaMZpaCpaQpaXoaKApbHobGocNobSobYobWobPobNYobPHobBobMobNobHobLobHTocobDobRobNHocSobCobTS",
  "obGH+qbTobTHobXobFobDHocCobZ~16AC0haDIGIT ZEROnaONEnaTWOoaHREEnaFOURoaIVEnaSIXoaEVENnaEIGHT*ncNI",
  "~16AD0aaBASSA VAH LETTER ENNIraKAraSEraFAraMBErbYIraGAHraDHII!rcKPraJO!rcHWraWAraZOraGBUraDOraCE",
  "raUWUraTOraBAraVUraYEINraPArbWADDrbraOsaOraUraEEsaraI~16AF0kaCOMBINING HIGH TONEufLOWufMIDuiLOW-",
  "%yf-LOWkaFULL STOP~16B00aaPAHAWH HMONG VOWEL KEEBwaVuaIBvaVuaAUBwaV!ucvaV*vbvaV(vbIwaVuaOOBwaV%vbW",
  "waV,vbAwaV(vbvaV%ucIwaV!ucvaV,ucvaV%vbAwaVnaCONSONANT VAUxcNTSxcLxcHxcNLxcRxcNKxcQHxcYxcHLxcMxcCH",
  "xeNxcHNxcPLHxdNTycxcxcXxcCnaMARK CIM TUBwaSOwaKESxaHAVwaSUAMwbHOwbTAU!ndSIGN VOS TxaSHAB CEEB",
  "saCIM CHEEM!xbHIAwaFEEMsaXYEEM NTXIVyaRHOyaTOVyaFAIB&waSEEV)scMEEJ SU!waNRUAsaIB YAMsaXAUS",
  ":waTSOV ROG~16B50naDIGIT ZEROtaONEtaTWOuaHREEtaFOURuaIVEtaSIXuaEVENtaEIGHT*tcNI~16B5BnaNUMBER TENS",
  "ubHUNDRED!xb THOUSANDubMILLIONuiHUNDRED uhTEN BvhR~16B63naSIGN VOS LUBsaXYOOsaHLIsdTHIRD-STAGE ",
  "saZWJ THAJ&scHNsaNQIGsaXIABsaNTUJsaAVsbTXHEEJ CEEsaMEEJ TSEEBsaTAUsaLOSsbMU",
  "saCIM HAIS LUS NTOG NTOGwaCUAM TSHOOJwaTXWVßa CHWVwaPUB DAWBwaNRES TOS~16B7DnaCLAN SIGN TSHEEJ",
  "xaYEEGxaLISyaAUJxbXYOOxaKOOxaHAWJxaMUAS%xcTHyaSABxcPHxdK(zaMxaVAJxcFxcY)zbWxaKWM&ybW",
  "~16E40aaMEDEFAIDRIN CAPITAL LETTER MàaSàaVàaWàaATIUàaZàaKPàbàaTàaGàaFàaIàaKàaAàaJàaEàaBàaCàaUàbY",
  "àaLàaQàaHPàaNYàaXàaDàaOEàaNàaRàaOàaAIàaYmaSMALL LETTER MzaSzaVzaWzaATIUzaZzaKPzbzaTzaGzaFzaIzaKzaA",
  "zaJzaEzaBzaCzaUzbYzaLzaQzaHPzaNYzaXzaDzaOEzaNzaRzaOzaAIzaYmaDIGIT ZEROsaONEsaTWOtaHREEsaFOURtaIVE",
  "saSIXtaEVENsaEIGHT*scNI$mcNUMBER TtcELEVtaTWELVE$ucHIRTEtfFOUueIFteSIXueEVENteEIGHteNINE",
  ".saONE ALTERNATE FORMspTWOtpHREEmaCOMMAmaFULL STOPmaSYMBOL AIVAmaEXCLAMATION OH",
  "~16F00baIAO LETTER PAmbBmbYI PmbPLmbMnbHmbARCHAIC MmbFmbVnbFmbTmbD,pbTTqbmcTmbDDmbNnbH&pbNN;ubNmcN",
  "obHmbLnbYnbHobY!mdTmdD!pbYmeDmbKmbG<pbKmbQnbGmcNobH!mdARCHAIC mbHmbX%mdobHmbTSSmbDZZmbNYobHmcTS",
  "mcDZ!meYI pcDZ!mfREFORMEDmdnbS%mdncS+ob+ob+rbmcmbZnbSnbZobS!mdARCHAIC !obYocSmbWmaAH<mcHmaBRImbSY",
  "mcDZmaTEnbSmbRT~16F4FfaSIGN CONSONANT MODIFIER BAR!maNASALIZATIONffSIGN ASPIRkaREFORMED VOICING",
  "taASPIRATIONfaVOWEL SIGN AraAraHHraNsaGqaOraOqbWraqaEraNsaGqaOEYqaIraAsaNtaGraOraEraIraU&rcqaUraA",
  "saNtaGraUraEI$rcqaYraIqaAEsaEqaERRqdROUNDED qbE!ßaqaAIqbEqaAUqbOqaNraGqbUO<rbU!qcraERqaVWqaIGqaEA",
  "!rbON)qc~16F8FfaTONE RIGHTkfTOP kaABOVEkaBELOWfaLETTER TONE-2ra3ra4ra5ra6ra7ra8maREFORMED TONE-1",
  "ßa2ßa4ßa5ßa6ßa8~16FE0aaTANGUT ITERATION MARKapNUSHUafOLD CHINESE HOOKmfITERATION",
  "aaKHITAN SMALL SCRIPT FILLER~16FF0aaVIETNAMESE ALTERNATE READING MARK CAçaNHAY",
  "~18800)haCOMPONENT-001ta2ta3ta4ta5ta6ta7ta8ta9sa10ta1ta2ta3ta4ta5ta6ta7ta8ta9sa20ta1ta2ta3ta4ta5",
  "ta6ta7ta8ta9sa30ta1ta2ta3ta4ta5ta6ta7ta8ta9sa40ta1ta2ta3ta4ta5ta6ta7ta8ta9sa50ta1ta2ta3ta4ta5ta6",
  "ta7ta8ta9sa60ta1ta2ta3ta4ta5ta6ta7ta8ta9sa70ta1ta2ta3ta4ta5ta6ta7ta8ta9sa80ta1ta2ta3ta4ta5ta6ta7",
  "ta8ta9sa90ta1ta2ta3ta4ta5ta6ta7ta8ta9ra100ta1ta2ta3ta4ta5ta6ta7ta8ta9sa10ta1ta2ta3ta4ta5ta6ta7ta8",
  "ta9sa20ta1ta2ta3ta4ta5ta6ta7ta8ta9sa30ta1ta2ta3ta4ta5ta6ta7ta8ta9sa40ta1ta2ta3ta4ta5ta6ta7ta8ta9",
  "sa50ta1ta2ta3ta4ta5ta6ta7ta8ta9sa60ta1ta2ta3ta4ta5ta6ta7ta8ta9sa70ta1ta2ta3ta4ta5ta6ta7ta8ta9sa80",
  "ta1ta2ta3ta4ta5ta6ta7ta8ta9sa90ta1ta2ta3ta4ta5ta6ta7ta8ta9ra200ta1ta2ta3ta4ta5ta6ta7ta8ta9sa10ta1",
  "ta2ta3ta4ta5ta6ta7ta8ta9sa20ta1ta2ta3ta4ta5ta6ta7ta8ta9sa30ta1ta2ta3ta4ta5ta6ta7ta8ta9sa40ta1ta2",
  "ta3ta4ta5ta6ta7ta8ta9sa50ta1ta2ta3ta4ta5ta6ta7ta8ta9sa60ta1ta2ta3ta4ta5ta6ta7ta8ta9sa70ta1ta2ta3",
  "ta4ta5ta6ta7ta8ta9sa80ta1ta2ta3ta4ta5ta6ta7ta8ta9sa90ta1ta2ta3ta4ta5ta6ta7ta8ta9ra300ta1ta2ta3ta4",
  "ta5ta6ta7ta8ta9sa10ta1ta2ta3ta4ta5ta6ta7ta8ta9sa20ta1ta2ta3ta4ta5ta6ta7ta8ta9sa30ta1ta2ta3ta4ta5",
  "ta6ta7ta8ta9sa40ta1ta2ta3ta4ta5ta6ta7ta8ta9sa50ta1ta2ta3ta4ta5ta6ta7ta8ta9sa60ta1ta2ta3ta4ta5ta6",
  "ta7ta8ta9sa70ta1ta2ta3ta4ta5ta6ta7ta8ta9sa80ta1ta2ta3ta4ta5ta6ta7ta8ta9sa90ta1ta2ta3ta4ta5ta6ta7",
  "ta8ta9ra400ta1ta2ta3ta4ta5ta6ta7ta8ta9sa10ta1ta2ta3ta4ta5ta6ta7ta8ta9sa20ta1ta2ta3ta4ta5ta6ta7ta8",
  "ta9sa30ta1ta2ta3ta4ta5ta6ta7ta8ta9sa40ta1ta2ta3ta4ta5ta6ta7ta8ta9sa50ta1ta2ta3ta4ta5ta6ta7ta8ta9",
  "sa60ta1ta2ta3ta4ta5ta6ta7ta8ta9sa70ta1ta2ta3ta4ta5ta6ta7ta8ta9sa80ta1ta2ta3ta4ta5ta6ta7ta8ta9sa90",
  "ta1ta2ta3ta4ta5ta6ta7ta8ta9ra500ta1ta2ta3ta4ta5ta6ta7ta8ta9sa10ta1ta2ta3ta4ta5ta6ta7ta8ta9sa20ta1",
  "ta2ta3ta4ta5ta6ta7ta8ta9sa30ta1ta2ta3ta4ta5ta6ta7ta8ta9sa40ta1ta2ta3ta4ta5ta6ta7ta8ta9sa50ta1ta2",
  "ta3ta4ta5ta6ta7ta8ta9sa60ta1ta2ta3ta4ta5ta6ta7ta8ta9sa70ta1ta2ta3ta4ta5ta6ta7ta8ta9sa80ta1ta2ta3",
  "ta4ta5ta6ta7ta8ta9sa90ta1ta2ta3ta4ta5ta6ta7ta8ta9ra600ta1ta2ta3ta4ta5ta6ta7ta8ta9sa10ta1ta2ta3ta4",
  "ta5ta6ta7ta8ta9sa20ta1ta2ta3ta4ta5ta6ta7ta8ta9sa30ta1ta2ta3ta4ta5ta6ta7ta8ta9sa40ta1ta2ta3ta4ta5",
  "ta6ta7ta8ta9sa50ta1ta2ta3ta4ta5ta6ta7ta8ta9sa60ta1ta2ta3ta4ta5ta6ta7ta8ta9sa70ta1ta2ta3ta4ta5ta6",
  "ta7ta8ta9sa80ta1ta2ta3ta4ta5ta6ta7ta8ta9sa90ta1ta2ta3ta4ta5ta6ta7ta8ta9ra700ta1ta2ta3ta4ta5ta6ta7",
  "ta8ta9sa10ta1ta2ta3ta4ta5ta6ta7ta8ta9sa20ta1ta2ta3ta4ta5ta6ta7ta8ta9sa30ta1ta2ta3ta4ta5ta6ta7ta8",
  "ta9sa40ta1ta2ta3ta4ta5ta6ta7ta8ta9sa50ta1ta2ta3ta4ta5ta6ta7ta8ta9sa60ta1ta2ta3ta4ta5ta6ta7ta8",
  "~1AFF0aaKATAKANA LETTER MINNAN TONE-2áa3áa4áa5~1AFF5áa7áa8xaNASALIZED TONE-1ëa2ëa3ëa4ëa5~1AFFDëa7",
  "ëa8"]

end Conductor.CharName
