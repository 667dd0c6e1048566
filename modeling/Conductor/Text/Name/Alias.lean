/-! Further names: of control characters, abbreviations, and corrected ones. -/

namespace Conductor.CharName

def aliases : List String := [
  "~0aaNULL~0daaaSTART OF HEADING~1baOH!jaTEXT~2caX!aiEND~3baTX!iaRANSMISSION~4baOTbaNQUIRY~5da",
  "aaACKNOWLEDGE~6dabaLERT~7aaBELbaACKSPACE~8baS,adCHARACTER TABULAT~9alHORIZONTAL~9baT~9aaTAB",
  "aaLINE FEED~AaaNEW LINE~A>haLINE~AaaLF~AaaNL~AabEO+alLINE~B,anVERTIC~BbaT+afFORM~CbaF",
  "=bbARRIAGE RETUR~DbaRaaSHIFT OUT~E:acLOCKING-SHIFT O~EaaSO$gaIN~F$oaZERO~FaaSIaaDATA LINK ESCAPE",
  "~10bbL)aeDEVICE CONTROL~11baC1!paTWO~12baC2!qaHREE~13baC3!paFOUR~14baC4aaNEGATIVE ACKNOWLEDGE",
  "~15baAK.adSYNCHRONOUS I~16daaaEND OF TRANSMISSION BLOCK~17baTBaaCANCEL~18da%haMEDIUM~19bbO",
  "*bbUBSTITUT~1AdaaaESCAPE~1Bda>afINFORMATION SEPARATOR~1CabFILE SEPARATO~1CbaS$waTHREE~1D$akGROUP",
  "~1DbaS$xaWO~1E$akRECORD~1EbaS(wbON~1F$akUNIT~1FbaSaaSP~7FaaDELETE~7FdaaaPADDING CHARACTER~80da",
  "aaHIGH OCTET PRESET~81baOPaaBREAK PERMITTED HERE~82baPH!afNO BREAK~83baBH<caDEX~84da%bbEXT LIN",
  "~85caLaaSTART OF SELECTED AREA~86bbS!arEND~87bbS<adCHARACTER TABULATION ~88apHORIZONTAL~88baTS",
  "$vaWITH JUSTIFICATION~89aãHORIZONTAL~89baTJ&apLINE~8A(arVERTIC~8AbaTSaaPARTIAL LINE FORWARD",
  "~8BnaDOWN~8BbaLD$neBACK~8CnaUP~8CbaLUaaREVERSE LINE FEED~8DiaINDEX~8DbaIaaSINGLE SHIFT TWO",
  "~8Ega-SHIFT-2~8EbbS$oaHREE~8F$na3~8FbbSaaDEVICE CONTROL STRING~90baCSaaPRIVATE USE ONE~91la-1",
  "~91bbU$maTWO~92la-2~92bbU.bbET TRANSMIT STAT~93baTSaaCANCEL CHARACTER~94baCH:adMESSAGE WAIT~95baW",
  "&caART OF GUARDED AREA~96jhPROTECT~96bbP$aqEND~97$asEND~97bbP&jaSTRING~98baOS",
  "baINGLE GRAPHIC CHARACTER INTRODUCER~99baGC!hu~9AbaCI!alCONTROL SEQUENCE~9BbaSI%bbTRING TERMINATO",
  "~9CcaaaOPERATING SYSTEM COMMAND~9DbaSCaaPRIVACY MESSAGE~9EbaM%ajAPPLICATION PROGRA~9FcaCaaNBSP",
  "~ADaaSHY~1A2aaLATIN CAPITAL LETTER GHAgmSMAL~34FaaCGJ~61CaaALM",
  "~709;bbYRIAC SUBLINEAR COLON SKEWED LEF~CDEaaKANNADA LETTER LLLA~E9D&caO LETTER FO FON~E9FpaAY",
  "~EA3laRO~EA5lbL~FD0aaTIBETAN MARK BKA- SHOG GI MGO RGYAN~11ECaaHANGUL JONGSEONG YESIEUNG-KIYEOK",
  "ßgSSANGraSSANGYESIEUNG$àaHIEUKH~180BaaFVS1da2da3aaMVS!da4~200BaaZWSPcaNJcbaaLRMabRL~202A!caEabRL",
  "aaPDF$caOabRL,acNNB~205FacMM,ac~2066&caIabRLabFSabPD~2118aaWEIERSTRASS ELLIPTIC FUNCTION",
  "~2448aaMICR ON US SYMBOLfhDASH~2B7A=bbEFTWARDS TRIANGLE-HEADED ARROW WITH DOUBLE VERTICAL STROK",
  "~2B7CaýRIGH~A015aaYI SYLLABLE ITERATION MARK~AA6EaaMYANMAR LETTER KHAMTI LLA~FE00aaVS1ca2ca3ca4ca5",
  "ca6ca7ca8ca9ca10da1da2da3da4da5da6",
  "~FE18aaPRESENTATION FORM FOR VERTICAL RIGHT WHITE LENTICULAR BRACKET~FEFFaaBYTE ORDER MARK",
  "~FEFFbaOM~FEFFaaZWNBSP~122D4aaCUNEIFORM SIGN NU11 TENUuaOVER NU11 BUR OVER BUR",
  "~16E56aaMEDEFAIDRIN CAPITAL LETTER HàaNG~16E76!mkSMALzaNG~1B001aaHENTAIGANA LETTER E-1",
  "~1D0C5,caZANTINE MUSICAL SYMBOL FTHORA SKLIRON CHROMA VASIS~E0100;da7da8da9ca20da1da2da3da4da5da6",
  "da7da8da9ca30da1da2da3da4da5da6da7da8da9ca40da1da2da3da4da5da6da7da8da9ca50da1da2da3da4da5da6da7",
  "da8da9ca60da1da2da3da4da5da6da7da8da9ca70da1da2da3da4da5da6da7da8da9ca80da1da2da3da4da5da6da7da8",
  "da9ca90da1da2da3da4da5da6da7da8da9ca100ea1ea2ea3ea4ea5ea6ea7ea8ea9da10ea1ea2ea3ea4ea5ea6ea7ea8ea9",
  "da20ea1ea2ea3ea4ea5ea6ea7ea8ea9da30ea1ea2ea3ea4ea5ea6ea7ea8ea9da40ea1ea2ea3ea4ea5ea6ea7ea8ea9da50",
  "ea1ea2ea3ea4ea5ea6ea7ea8ea9da60ea1ea2ea3ea4ea5ea6ea7ea8ea9da70ea1ea2ea3ea4ea5ea6ea7ea8ea9da80ea1",
  "ea2ea3ea4ea5ea6ea7ea8ea9da90ea1ea2ea3ea4ea5ea6ea7ea8ea9ca200ea1ea2ea3ea4ea5ea6ea7ea8ea9da10ea1ea2",
  "ea3ea4ea5ea6ea7ea8ea9da20ea1ea2ea3ea4ea5ea6ea7ea8ea9da30ea1ea2ea3ea4ea5ea6ea7ea8ea9da40ea1ea2ea3",
  "ea4ea5ea6ea7ea8ea9da50ea1ea2ea3ea4ea5ea6"]

end Conductor.CharName
