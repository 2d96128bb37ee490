import Courier.Text.Unicode.Coded

/-!
# Folding of names

What the characters in the name of a host become before names are compared: capital letters become small ones, variants
of a character become the plain one, some characters vanish, and some may not stand in a name.
-/

namespace Courier.Unicode

/-- The code points that become a single other one, without those that decompose. -/
def shiftTable : List String := [
  "CnzaDtDraaBgkaaDtibaBydaaBKueaaBxbaaEhmaaIwkaaJgiaaJogaaJuByaaKnwaaLjBbaaMkjaaMtiaaNbuaaNvzaaElcaaWxbbbOxeaaWyba",
  "aPccbaXacaaPgdaaSjbaaXdbaaXfbaaPmcaaXkbaaXncaaXtbaaXsbaaPteaaXzbaaYccaaYfdbbQdeaaYqbaaQicaaYtdaaQncaaYydbaZacbbQ",
  "ueaaZibaaQzeaaRdBoaaSrsaaPpbaaRfBlaaUveaaPycbbVbyaaQVdbaaWacaaPubaaQVedaaWgcaaOubaaYzbaaZcbebWlEcbbEabaaXqcaaEkb",
  "aaYjbaaYlbaaYrbaaEpbaaErBoaaXnbaaEebaaElbaaEqbaaZlDtaaBKrBrbbBHxgaaBIdjaaBMxsqaBKjsgaBLbBsaaBLvbaaBKkbaaBKqbaaBL",
  "ddaaBLebaaBKyclbBLxyaaBKsbaaBKzbaaBLbcaaBKqbaaBKncaaBNccaaBLbbaaBNfdcaBIhfebBQodaaBQrebbBQvgaaBRbbpbBPgbdbBPhkkb",
  "BPrCrkbBRdyebBSbsBabBStCcaaBVjdfbBUyraaBVpeaaBVtiaaBWbiaaBWjoaaBWxeBabBXbCdBlaCAzDTbaaFSdPoBlaRBcBnaaRCpgaaRCvBv",
  "aaGKaBDkfaHOiDGaaaBPibaaBPkbaaBPubbaBPxcaaBPybaaBQgbaaBRfbaaCKZjbaaKVahBqaGJoBtcaGLhEhaaDtbaaIwbbbDudebDxbaaSjcd",
  "bEaiaaEhbaaVbbaaEibaaEkbbaEmcaaEpbaaDtbbaWucaaKZqbaaDubbaDwcaaXdbbaXfcaaDzcaaEdbbbEfbaaMtcaaWybbaLAkcaaEibbaEmca",
  "aLArbaaXzbaaEobaaLAzbcaBKkdbaBLecaaEbbaaEkbbaEncbaBKkcaaBKzbbaBLepaaBPtBjaaWwbaaDvbaaWzbaaJgbaaXgbaaDybaaXjbaaXl",
  "baaXpbcaXsdaaLEhbaaZtbaaXxbaaLErbaaZvbaaYbbaaYabdaYceaaYibbaYscaaQlbbaYzcaaLAqbbaZbcaaEsbcaZgdaaBKqIpaaIpDocbLTb",
  "KeaaBgbaaBgbaaBgbaaBgbaaBgbaaBgbaaBgbaaBgbaaBghaaMDsBeaaBgBwaaBgraaBwbaaEbdfaCagaaBrbaaMXmbaaCjbbaBocaaEgbjaBwka",
  "aBrbaaMXmbaaCjbbaBodaaDtbaaDxbaaEhbaaEqbaaXdbaaEabdaEdeaaEibbaElDzaaDvfaaXfdbaDzcaaEabaaEabaaEabaaLjbaaEbbaaEbba",
  "aEebbbEegcaEidaaEkbaaEkhaaEseaaEsebaDudaaDxbbaDxcaaMPybaaEfbaaEhbdaCFgeaaEbdaaBKybaaBKlbaaBKlbaaBKybaaMXlfaaDwbb",
  "aDwcbaEbyaaEbeaaEofaaEqdaaEebbaDvcaaEfbaaEbeaaEofaaEqdaaEebbaDvcaaEfeaaMSaBCfiaBxDizaDtBazaDtBaaaBwCRuBvaQTcDsaa",
  "QUzcaaXvbaaLEjbaaYndcbQVggaaWvbaaYbbaaWubaaWwcaaQVrdaaQVuhaaEcbaaEobbaWdcBxbQWfEdbbRAihaaRApEvaaREvLsaaBOVlDgaaC",
  "ILrnaaBDOabaaBDPobaaBDQcbaaBDQlbaaBDRlbaaBDTdbaaBDTkbaaBDUebaaBDVebaaBETzbaaBEVlbaaBEVrbaaBEWobaaBEXibaaBEYdbaaB",
  "FAebaaBFAzbaaBFBkbaaBFHjbaaBFKzbaaBFMbbaaBFMgbaaBFNkbaaBFNtbaaBFOubaaBFPhbaaBFQgbaaBFSgbaaBFSybaaBFTzbaaBGXbbaaB",
  "GZvbaaBHRnbaaBHSkbaaBHSsbaaBHTdbaaBHTvbaaBHWtbaaBIPcbaaBIQybaaBIVobaaBIWlbaaBIXebaaBIYabaaBJAcbaaBJAfbaaBJOdbaaB",
  "JOnbaaBJOzbaaBJPmbaaBJTybaaBJUgbaaBJUlbaaBJYybaaBJZibaaBJZvbaaBKAdbaaBKCmbaaBKDdbaaBKDvbaaBKGxbaaBLDgbaaBLFabaaB",
  "LFvbaaBMIhbaaBMImbaaBMLrbaaBMMhbaaBMMubaaBMNpbaaBMPcbaaBMPhbaaBMZobaaBNAmbaaBNBsbaaBOOubaaBORibaaBOSfbaaBOUlbaaB",
  "OVjbaaBOVsbaaBOVzbaaBOXzbaaBOYebaaBOZkbaaBQOxbaaBRGcbaaBRGobaaBRGtbaaBRGxbaaBRHfbaaBRHxbaaBRHzbaaBRLcbaaBRTkbaaB",
  "RTpbaaBSGqbaaBSHabaaBSIybaaBSJfbaaBSJobaaBSJwbaaBSNjbaaBSNqbaaBSWkbaaBSWrbaaBSYobaaBSZfbaaBTBabaaBTKdbaaBTKkbaaB",
  "TLbbaaBTXqbaaBUCmbaaBUCsbaaBUJsbaaBUNbbaaBUOvbaaBVDjbaaBVImbaaBWEobaaBWFpbaaBWHubaaBWJtbaaBWMjbaaBWMubaaBWNabaaB",
  "WOhbaaBWRfbaaBWRpbaaBXExbaaBXFebaaBXFnbaaBXFwbaaBXGmbaaBXHbbaaBXHfbaaBXKgbaaBXKkbaaBXKqbaaBYWjbaaBYXnbaaBZPobaaB",
  "ZQabaaBZQxbaaCABubaaCAChbaaCAFabaaCAGubaaCBCpbaaCBDebaaCBDtbaaCBFcbaaCBGnbaaCBOebaaCBOqbaaCBRfbaaCCAtbaaCCBybaaC",
  "CJzbaaCCKubaaCCKzbaaCCTlbaaCDAnbaaCDFibaaCDFobaaCDFtbaaCEPrbaaCEQabaaCEWabaaCFBybaaCFCbbaaCFDwbaaCFHxbaaCFIkbaaC",
  "FIobaaCFIvbaaCFMpbaaCFNxbaaCFOdbaaCFOrbaaCFVcbaaCFXbbaaCFXfbaaCGEgbaaCGEjbaaCGFcbaaCGOubaaCGQqbaaCGQxbaaCGTpbaaC",
  "GTzbaaCGUcbaaCGUmbaaCGVqbaaCHKvbaaCIAfbaaCIApbaaCICbbaaCICxbaaCIDfbaaCIDpbaaCIDtbaaCIFhbaaCIFlbaaCIGcbaaCIGhbaaC",
  "IGubaaCIHvbaaCIIkbaaCIIsbaaCIKzbaaCILobaaCILsBraaBgcaaBuCaaaSFicaaBFNtbbaBFNwJobaGLkcbbGRybaaGLmcaaGSbbcaGLndfaG",
  "SegaaGMkbcaGLqdaaGMrbjaGLtkuaGPdwbaGMecbaGTbcaaGTgbaaGTibaaGTnbaaGTrbaaGTtbaaGMmbaaGTxbaaGTzbbaGMncaaGMqbbaGMsca",
  "aGMxbaaGMzbeaGNbfaaGNibaaGNmbaaGNwbaaGOdbaaGOibbaGUrccaGOtdbaGQmcaaGQqbbaGQzcaaGRcbaaGRmbaaGRpeaaBDOabaaBDTkbaaB",
  "DOjbaaBGXfbaaBDOkbaaBDPtbaaBDOlbaaBSJybaaBDRlbaaBDOzbaaBDObbaaBHTxbaaBHAmbaaBDVeGjaaBGHzbaaBJUibaaBMLrbaaBUUpzaa",
  "GLkbbaGLmccaGLpdaaGLtbbaGLvceaGLyfaaCNDobaaCOWubaaCPTkbaaCRMqbaaCSJgbaaCTFwbaaCUZcbaaCWSibaaCXOybaaCZIebaaDAEuba",
  "aDBBkbaaDBYabaaDCUqdaaCXGicaaBDOabaaBDTkbaaBDOjbaaBGXfbaaBDTsbaaBEVtbaaBDOdbaaBEVrbaaBDRpbaaBFNtbaaBNAmbaaBQOxba",
  "aBOZkbaaBNBsbaaCDFtbaaBGZvbaaBMPhbaaBNLqbaaBNAnbaaBTXubaaBFVpbaaBRJdbaaCBGrbaaBTYzbaaBFIibaaBUDsbaaBSKdbaaBHWtba",
  "aCCRxbaaBETebaaBFPobaaBPGibaaCFOvbaaBDYnbaaBEXlbaaBORjbaaBDOkbaaBDPtbaaBDOlbaaBJOobaaBFUpbaaBFNnbaaBIRvbaaBIPyba",
  "aBTApbaaBDXxbaaCBIdbaaBFOmbaaBHTkBgaaSKwbaaSKybaaSLabaaSLcbbaSLecaaSLhbaaSLjbaaSLlbaaSLnbaaSLpbaaSLrbaaSLtbaaSLv",
  "baaSLxbaaSLzbaaSMbbaaSMebaaSMgbaaSMibfaSMkgaaSMsbaaSMvbaaSMybaaSNbbeaSNefaaSNkbaaSNmbfaSNogdaSNvBRQzwbCKYzCmnbCL",
  "BlBcaaBQgbaaBQiFdgbCLHrqBebCLIhCkaaCLKpjbbCLLaeaaLEfbebCLLfnaaCLLscaaXpdbbCLLxgjbCLMduaaXqbaaXgbaaXlbaaXwbaaXuca",
  "aZubaaYxbaaZtbaaCMWxbhbCLNhqaaCLMabaaYsbaaLFabbbCLOaeaaXobhbCLOfqaaPvvaaElbaaDvbaaDybaaEjbaaCLPudaaLjbaaNbBHjaaC",
  "LHvbaaCMVvbaaXvbaaCMWwkaaZdhDbaHLgBEEqaaCFybaaCFgbbaCFjccaCFrdaaCGebaaCGgbaaBrBnaaCLlbaaCLlbaaCLvbaaCLvbaaCLvbaa",
  "CLvbaaCLybaaCLybbbCLybbbCLydaaCMabaaCMabaaCLubaaCLubaaCLubaaCLubaaCLzbaaCLzbaaCLzbaaCLzbaaCLtbaaCLtbaaCLtbaaCLtb",
  "aaCNkbaaCNkbbbCNkbbbCNkdaaCNmbaaCNmbaaCMebaaCMebaaCMebaaCMebaaCMdbaaCMdbaaCMdbaaCMdbaaCMgbaaCMgbaaCMgbbaCMgcaaCM",
  "hbaaCMhbaaCMhbaaCMnbaaCMnbbbCMmbbbCMmdaaCMibaaCMibaaCMybaaCMybaaCMrbaaCMrbaaCNpbaaCNpbaaCNpbaaCNpbaaCNvbaaCNvbaa",
  "CNvbaaCNvbaaCNzbaaCNzbaaCNzbaaCNzbaaCNxbaaCNxbaaCNxbaaCNxbaaCOgbbaCOgcaaCOhbaaCOhbaaCOhbaaCOmbbaCOmcaaCOnbaaCOnb",
  "aaCOnbaaCOkbaaCOkbaaCOkbaaCOkbaaCPebbaCPecaaCPfBiaaCNtbaaCNtbaaCNtbaaCNtbaaCOtbaaCOtbbbCOsbbbCOseaaCOxbaaCOxbaaC",
  "OrbaaCOrbaaCOvbaaCOvbaaCPcbaaCPcbaaCPcbaaCPcbaaCJxbaaCJxtaaCOybaaCOybaaCOybaaCOyUjaaBsbaaSErcbaCgcaaBhbaaClbbaSF",
  "mBaaaMDwbaaMDvbaaDrbaaDrbbaBocaaEtbaaEvbbaSFkcbaSFgcbaSFacbaSEycdaSFcgaaDnbaaDpfaaDrbaaDrbaaDrbaaBsbaaSErdaaChba",
  "aCgbaaClbaaBhbaaMDwbbaBocaaEtbaaEvbbaSFkcaaBjbaaBmbbaBqcaaBtbaaCibaaCkbaaCjcaaDobbaBkcaaCmvbaCIjcbaCIkcbaCIlcbaC",
  "ImcbaCIncaaCIobaaCIobbaCIocbaCIpcaaCIqbaaCIqbbaCIqcbaCIrcaaCIsbaaCIsbbaCIscaaCItbaaCItbbaCItcaaCIubaaCIubbaCIuca",
  "aCIvbaaCIvbbaCIvcaaCIwbaaCIwbbaCIwcbaCIxcbaCIycbaCIzcbaCJacaaCJbbaaCJbbbaCJbcaaCJcbaaCJcbbaCJccaaCJdbaaCJdbbaCJd",
  "caaCJebaaCJebbaCJecaaCJfbaaCJfbbaCJfcaaCJgbaaCJgbbaCJgcaaCJhbaaCJhbbaCJhcaaCJibaaCJibaaCJibaaCJpbaaCJpbaaCJpbbaC",
  "JpcaaCJqbaaCJqbbaCJqcaaCJrbaaCJrbbaCJrcaaCJsbaaCJsbbaCJscaaCJtbaaCJtbbaCJtcaaCJubaaCJubbaCJucaaCJvbaaCJvbbaCJvcb",
  "aCJwcbaCJxcaaCJybaaCJybaaCJynBfaBhBgzaDtBaBjaDnBkbaPSvcaaBubbaSFccaaSErbaaSOhbaaSNybaaSKvbaaSKxbaaSKzbaaSLbbaaSL",
  "dbaaSNjbaaSNlbaaSNnbaaSMdbaaSOibaaSKwbaaSKybaaSLabaaSLcbbaSLecaaSLhbaaSLjbaaSLlbaaSLnbaaSLpbaaSLrbaaSLtbaaSLvbaa",
  "SLxbaaSLzbaaSMbbaaSMebaaSMgbaaSMibfaSMkgaaSMsbaaSMvbaaSMybaaSNbbeaSNefaaSNkbaaSNmbfaSNogaaSNvbaaSNzbbaSKndbaGLkc",
  "bbGRybaaGLmcaaGSbbcaGLndfaGSegaaGMkbcaGLqdaaGMrbjaGLtnfaGPdifaGPjifaGPpicaGPvgbaGgcaaGqcaaGkbaaGjbaaMJpcaaOAkbda",
  "MSmeaaOGmbaaOIdBOcBnaDUNoGuBjaDUUiHksbDVBrbebDVBsmgbDVCeqcbDVCuiaaDVDcSybaBBscaaIwbaaZpbaaWxcbbZzbaaCMXqcaaBAabb",
  "aXacaaLFdbaaXcbaaXibaaBAfbaaXobaaXmbaaXkbaaZrbaaLjbaaZsbaaXrbaaYubbaBAgcaaXwbaaGZKmbaaCLLubaaXybaaGZKnbaaZebaaGZ",
  "KobaaJobbaYgcaaEjbaaYkbaaGZKqbbaYncaaYqbaaBAebaaBAcbaaCMXrbaaBAdbaaYybaaQVpcaaZfbbaZxcaaZobcaRgdaaGZKsbaaGZLmBVa",
  "ByaDXUeIavaDYAyEHkBfaECIiBGLcBfaFITkDsyaFIWxBJRqzaDtBajaBwCRozaDtBazaDtBazaDtBambDtbcbDuiibEcrzaDtBazaDtBabbDtda",
  "aDwdaaDzdbaEcedaEgfhaElidaDtfkbDydcbEbiebEjkzaDtBazaDtBabaDtddaDwghaEcjgaElizaDtBabaDtddaDwfeaEbgaaEhegaElizaDtB",
  "azaDtBazaDtBazaDtBazaDtBazaDtBazaDtBazaDtBazaDtBazaDtBazaDtBazaDtBazaDtBaaaLtbaaVvdqaBKjraaBKqbgaBLbhaaMXbbqaBKj",
  "raaBLbbgaBLbhaaMWwbaaBKnbaaBKqbaaBKsbaaBLebaaBKzbaaBKybqaBKjraaBKqbgaBLbhaaMXbbqaBKjraaBLbbgaBLbhaaMWwbaaBKnbaaB",
  "KqbaaBKsbaaBLebaaBKzbaaBKybqaBKjraaBKqbgaBLbhaaMXbbqaBKjraaBLbbgaBLbhaaMWwbaaBKnbaaBKqbaaBKsbaaBLebaaBKzbaaBKybq",
  "aBKjraaBKqbgaBLbhaaMXbbqaBKjraaBLbbgaBLbhaaMWwbaaBKnbaaBKqbaaBKsbaaBLebaaBKzbaaBKybqaBKjraaBKqbgaBLbhaaMXbbqaBKj",
  "raaBLbbgaBLbhaaMWwbaaBKnbaaBKqbaaBKsbaaBLebaaBKzbaaBKybaaBMbbaaBMbdjaBwkjaBwkjaBwkjaBwkjaBwDDaiaBPgjcaBPqdkaBPul",
  "aaBQhbbaBQjcaaCLBtbaaBVtbaaBQsbaaBQubaaBWjbaaBUdbaaBVjbiaBPgjbaBPqcbaBPucaaBPxbfaBPzgbaBQgcaaBSzbaaBQsbaaBQrbaaB",
  "RbbaaBTzbaaCKZpbaaBUfDGlBhaHDGcBXgbaCIpcaaCIubaaCIxcaaCJwbaaCJabaaCIvbaaCJfbaaCJybdaCJreaaCJbbaaCJhbaaCJpbaaCJdb",
  "aaCJqbaaCIzbaaCJcbbaCIscaaCIwbaaCIybaaCJebaaCJgbaaCJibaaCLibaaCOgbaaCNhbaaCLjcaaCIqbaaCIucaaCJvdaaCIvcaaCJybdaCJ",
  "reaaCJbbaaCJhbaaCJpbaaCJdbaaCJqcaaCJcbbaCIscaaCIwcaaCJecaaCJihaaCIufaaCIvcaaCJycbbCJsdaaCJbbaaCJhcaaCJdbaaCJqcaa",
  "CJcdaaCIwcaaCJecaaCJicaaCOgcaaCLjcaaCIqbaaCIucaaCJvdaaCIvbaaCJfbaaCJybbbCJrdaaCJubaaCJbbaaCJhbaaCJpbaaCJdbaaCJqc",
  "aaCJcbbaCIscaaCIwcaaCJebaaCJgbaaCJibaaCLicaaCNhcbaCIpcaaCIubaaCIxbbaCJvcaaCJabaaCIvbaaCJfbaaCJyccaCJsdaaCJbbaaCJ",
  "hbaaCJpbaaCJdbaaCJqbaaCIzbaaCJcbbaCIscaaCIwbaaCIybaaCJebaaCJgbaaCJigaaCIqbaaCIubaaCIxcaaCJwbaaCJabaaCIvbaaCJfbaa",
  "CJyccaCJsdaaCJbbaaCJhbaaCJpbaaCJdbaaCJqbaaCIzbaaCJcbbaCIscaaCIwbaaCIybaaCJebaaCJgbaaCJiYaaaDvbaaEkezaDtIcaaSLpoa",
  "aBLFvbaaBIPjbaaBFTcbaaSMhbaaBDTkbaaBHTibaaCAFrbaaBHTxbaaBDUibaaBMRobaaBQVxbaaBMMjbaaBFEjbaaBKEubaaBEWzbaaBMNgbaa",
  "BFCnbaaBVLibaaBSJfbaaCBGzbaaBHRsbaaBFXhbaaBQBsbaaBLIrbaaBLQbbaaBDOabaaBDOjbaaCCQsbaaBJOobaaBDPtbaaBFUpbaaBLNbbaa",
  "CBOqbaaBLGdbaaBUAjbaaBUJybaaBFVkbaaBPWabaaBNAnbaaBNAmbaaBSJzbaaBFFubaaBGLybaaCDArvaaBKFfbaaBFUlDQtjaBw"]

/-- The code points that become several, without those that decompose. -/
def expansionTable : List String := [
  "GmcBgBDwhcBgBDsfcBgBDpecBgBFbedBxMFsCabdBxMFsBybdBzMFsCaEmcEbEcbcEbEcmcEeHbbcEeHbjcBAyEgEtcDwOsbcDwOsbcDwOsbcEeE",
  "cbcEeEcbcEeEcbcEgEcbcEgEcbcEgEcBlcDwEsbcDwEsbcDwEsIvcBgBDubcBgBDvbcBgBDybcBgBFcbcBgBDrbcBgBDzGbcBgBKrkcBgBDpTvcC",
  "BdCCgJecCIpCLobcCJwCLobcCOtCLobcCJyCLoCYdcFKvFJuEycFPtFOsBpcFOlFNtbcFOlFObFydFYoFWbFWqcdFYpFWbFWqFSzcDtBBaLfcBgB",
  "EhccBgBEhbcBgBGcCkcBgBEizcBgBFnBccMFaMFabdMFaMFaMFaccMFdMFdbdMFdMFdMFdfcBhBhccBgBDtjcClClbcClBhbcBhCloeMFaMFaMFa",
  "MFaDdcEkElDkdDtBvDvbdDtBvElccGuDvcdDvBvEhbdDvBvEndcGuDyncEgEhkcElEfbdEmDxEebcEmEfzdDyDtEqvdBxMFsCdbdBxMFsCfbeBxM",
  "FsBxBwbdBxMFsBzbdByMFsBzbdBxMFsCbbdByMFsCbbdBzMFsCbbdCaMFsCbbdBxMFsCcbdCbMFsCcbdBxMFsCebdBzMFsCebdCbMFsCebdCdMFs",
  "CebcBxMFsccEbEbbdEbEbEbbcEbEoccEoEbbdEoEbEbbeEoEbEbEbbcEbEqccEqEbbdEqEbEbgcEbEbbdEbEbEbbcEbEoccEoEbbdEoEbEbbeEoE",
  "bEbEbbcEbEqccEqEbbdEqEbEbodBwMFsBzGhcMYlMYlbdMYlMYlMYlccMYoMYobdMYoMYoMYoVxcBxBwbcBxBxbcBxBybcBxBzbcBxCabcBxCbbc",
  "BxCcbcBxCdbcBxCebcBxCfbcByBwbdBoBxBpbdBoByBpbdBoBzBpbdBoCaBpbdBoCbBpbdBoCcBpbdBoCdBpbdBoCeBpbdBoCfBpbeBoBxBwBpbe",
  "BoBxBxBpbeBoBxByBpbeBoBxBzBpbeBoBxCaBpbeBoBxCbBpbeBoBxCcBpbeBoBxCdBpbeBoBxCeBpbeBoBxCfBpbeBoByBwBpvdBoDtBpbdBoDu",
  "BpbdBoDvBpbdBoDwBpbdBoDxBpbdBoDyBpbdBoDzBpbdBoEaBpbdBoEbBpbdBoEcBpbdBoEdBpbdBoEeBpbdBoEfBpbdBoEgBpbdBoEhBpbdBoEi",
  "BpbdBoEjBpbdBoEkBpbdBoElBpbdBoEmBpbdBoEnBpbdBoEoBpbdBoEpBpbdBoEqBpbdBoErBpbdBoEsBpCApeMYlMYlMYlMYlEadCgCgCjbcCjC",
  "jbdCjCjCjCIncBgSKnbcBgSKodcSJwSJyDscSLnSMiJxdBoGLkBpbdBoGLmBpbdBoGLnBpbdBoGLpBpbdBoGLqBpbdBoGLrBpbdBoGLtBpbdBoGL",
  "vBpbdBoGLwBpbdBoGLyBpbdBoGLzBpbdBoGMaBpbdBoGMbBpbdBoGMcBpbdBoCNDoBpbdBoCOWuBpbdBoCPTkBpbdBoCRMqBpbdBoCSJgBpbdBoC",
  "TFwBpbdBoCUZcBpbdBoCWSiBpbdBoCXOyBpbdBoCZIeBpbdBoDAEuBpbdBoDBBkBpbdBoDBYaBpbdBoDCUqBpbdBoCYCyBpbeBoCXAyCXTkBpbeB",
  "oCXAyDDIqBpcdBoBDOaBpbdBoBDTkBpbdBoBDOjBpbdBoBGXfBpbdBoBDTsBpbdBoBEVtBpbdBoBDOdBpbdBoBEVrBpbdBoBDRpBpbdBoBFNtBpb",
  "dBoBNAmBpbdBoBQOxBpbdBoBOZkBpbdBoBNBsBpbdBoCDFtBpbdBoBGZvBpbdBoBMPhBpbdBoBNLqBpbdBoBNAnBpbdBoBTXuBpbdBoBFVpBpbdB",
  "oBRJdBpbdBoCBGrBpbdBoBTYzBpbdBoBFIiBpbdBoBDWtBpbdBoBFZwBpbdBoBIPyBpbdBoBTApBpbdBoBDXxBpbdBoCBIdBpbdBoBFOmBpbdBoB",
  "TZpBpbdBoBDYnBpbdBoBXFeBpbdBoBXFnBpndEiEmDxbcByBxbcByBybcByBzbcByCabcByCbbcByCcbcByCdbcByCebcByCfbcBzBwbcBzBxbcB",
  "zBybcBzBzbcBzCabcBzCbBdcCZIuCNMebcCYCyCXMuCacBzCcbcBzCdbcBzCebcBzCfbcCaBwbcCaBxbcCaBybcCaBzbcCaCabcCaCbbcCaCcbcC",
  "aCdbcCaCebcCaCfbcCbBwbcBxBNAmbcByBNAmbcBzBNAmbcCaBNAmbcCbBNAmbcCcBNAmbcCdBNAmbcCeBNAmbcCfBNAmbdBxBwBNAmbdBxBxBNA",
  "mbdBxByBNAmbcEaDzbdDxEkDzbcDxEobdEeEmDwBwcBDWuBGAmbeSKwSMrSOiSMibeSKwSNrSMvSKvbeSKwSNzSNaSKwbdSKwSOiSNrbeSKySMlS",
  "NzSLkbdSKySNzSMbbdSLaSLdSNzbfSLcSLtSLjSOiSMjbeSLcSOiSLfSOibdSLeSNzSLtbdSLeSOiSNgbdSLfSKySNqbeSLfSNpSMdSMibeSLfSN",
  "tSNqSOibdSLgSNtSNzbdSLgSNzSNebcSLiSLgbdSLiSMlSOibeSLhSNlSNqSOibeSLiSNrSMaSOibcSLhSNtbfSLhSNtSLkSNpSNgbgSLhSNtSNh",
  "SOiSMiSNrbfSLhSNtSNvSMdSMibdSLkSNpSNgbfSLkSNpSNgSMiSNzbfSLjSNrSLwSKySNtbeSLjSNtSOiSMnbdSLlSOiSLtbdSLnSNrSMkbdSLn",
  "SOiSNdbeSLpSKySLjSNrbfSLpSNzSMbSOiSNgbeSLrSNqSNzSLkbdSLvSNzSMbbdSLvSNzSMibdSMaSOiSLtbcSMhSLrbcSMjSNrbcSMiSNzbcSM",
  "kSMobdSMoSMdSMibdSMpSKySMebfSMrSOiSLvSNzSMibdSMrSOiSMebeSMqSOiSNsSNrbfSMuSKwSLtSMiSNrbdSMuSLjSNrbcSMuSLnbcSMtSNr",
  "bfSMvSKvSNpSMdSMjbeSMvSKxSOiSMibfSMwSMdSLrSLbSNrbdSMvSNpSNzbfSMySLjSLzSOiSNrbcSNaSLxbdSNaSMlSMsbdSMySNrSMebdSNaS",
  "NzSLtbdSNaSOiSLsbdSMzSOiSLzbeSNdSKySNzSMibdSNcSNrSMibcSNbSNzbdSNdSNzSMjbdSNbSOiSNrbdSNbSOiSNzbeSNeSKySLjSNtbdSNe",
  "SKySNrbdSNeSMdSMpbdSNeSNrSLjbfSNeSNzSLrSNnSNzbeSNfSLjSNtSNzbcSNfSNqbfSNfSNqSMqSOiSNrbcSNhSLgbeSNhSLgSMiSNzbeSNhS",
  "OiSMiSNrbdSNkSOiSMjbdSNkSOiSNrbdSNmSKwSNzbeSNqSMdSMiSNrbcSNqSNpbdSNrSMuSOibeSNrSOiSMwSNrbcSNsSNgbfSNsSNzSMiSLmSN",
  "zbdSNvSMdSMibcBwBQRxbcBxBQRxbcByBQRxbcBzBQRxbcCaBQRxbcCbBQRxbcCcBQRxbcCdBQRxbcCeBQRxbcCfBQRxbdBxBwBQRxbdBxBxBQRx",
  "bdBxByBQRxbdBxBzBQRxbdBxCaBQRxbdBxCbBQRxbdBxCcBQRxbdBxCdBQRxbdBxCeBQRxbdBxCfBQRxbdByBwBQRxbdByBxBQRxbdByByBQRxbd",
  "ByBzBQRxbdByCaBQRxbdEaEiDtbcDwDtbcDtEnbdDuDtEkbcEhEobcEiDvbcDwEfbdDwEfBybdDwEfBzbcEbEnbcBJTzBLDobcBMSbBGAmbcBHTv",
  "BORjbcBMQwBPEpbeBNLqBJZzBDYwBTXubcEiDtbcEgDtbcBKuDtbcEfDtbcEdDtbcEdDubcEfDubcDzDubdDvDtEebeEdDvDtEebcEiDybcEgDyb",
  "cBKuDybcBKuDzbcEfDzbcEdDzbcEaEsbdEdEaEsbdEfEaEsbdDzEaEsbdEmEaEsbcBKuEebcEfEebcDwEebcEdEebcDyEfbcEgEfbcBKuEfbcEfE",
  "fbcDvEfbcEdEfbdEfEfBybdDvEfBybcEfBybdEdEfBybdEfEfBzbdDvEfBzbcEfBzbdEdEfBzbdEfMXpElbeEfMXpElBybcEiDtbdEdEiDtbdEfE",
  "iDtbdDzEiDtbdEkDtDwbfEkDtDwMXpElbgEkDtDwMXpElBybcEiElbcEgElbcBKuElbcEfElbcEiEobcEgEobcBKuEobcEfEobcEdEobcEfEobcE",
  "iEpbcEgEpbcBKuEpbcEfEpbcEdEpbcEfEpbcEdBLhbcEfBLhccDuEjbcDvDvbcDvDwbeDvMXpEdDzccDwDubcDzErbcEaDtbcEaEibcEbEgbcEdE",
  "dbcEdEfbcEdEmbcEeEfbcEeEgbdEeEhDzbcEeEqbcEfDubdEfEbEebdEfEhEebcEiEacdEiEiEfbcEiEkbcElEkbcElEobcEpDubdEoMXpEfbdDt",
  "MXpEfbcBxBMPhbcByBMPhbcBzBMPhbcCaBMPhbcCbBMPhbcCcBMPhbcCdBMPhbcCeBMPhbcCfBMPhbdBxBwBMPhbdBxBxBMPhbdBxByBMPhbdBxB",
  "zBMPhbdBxCaBMPhbdBxCbBMPhbdBxCcBMPhbdBxCdBMPhbdBxCeBMPhbdBxCfBMPhbdByBwBMPhbdByBxBMPhbdByByBMPhbdByBzBMPhbdByCaB",
  "MPhbdByCbBMPhbdByCcBMPhbdByCdBMPhbdByCeBMPhbdByCfBMPhbdBzBwBMPhbdBzBxBMPhbdDzDtEeCXJlcDyDybcDyEbbcDyEebdDyDyEbbd",
  "DyDyEebcElEmbcElEmncCBsCBubcCBsCBdbcCBsCBjbcCCcCBubcCBsCBlCecCFgCFsFmcCOtCLoncCIoCIpbcCIoCIpbcCIoCPhbcCIoCPhbcCI",
  "oCJwbcCIoCJwbcCIoCOtbcCIoCOtbcCIoCOsbcCIoCOsbcCIoCOubcCIoCOubcCIoCPcbcCIoCPcbcCIoCPcbcCIoCJxbcCIoCJxbcCIoCJxfcCI",
  "oCIubcCIoCIvbcCIoCJtbcCIoCJxbcCIoCJybcCIqCIubcCIqCIvbcCIqCIwbcCIqCJtbcCIqCJxbcCIqCJybcCIsCIubcCIsCIvbcCIsCIwbcCI",
  "sCJtbcCIsCJxbcCIsCJybcCItCIubcCItCJtbcCItCJxbcCItCJybcCIuCIvbcCIuCJtbcCIvCIubcCIvCJtbcCIwCIubcCIwCIvbcCIwCJtbcCJ",
  "bCIubcCJbCIvbcCJbCIwbcCJbCJtbcCJdCIvbcCJdCJtbcCJeCIubcCJeCIvbcCJeCIwbcCJeCJtbcCJfCIvbcCJfCJtbcCJgCJtbcCJhCIubcCJ",
  "hCJtbcCJiCIubcCJiCJtbcCJpCIubcCJpCIvbcCJpCIwbcCJpCJtbcCJpCJxbcCJpCJybcCJqCIvbcCJqCJtbcCJqCJxbcCJqCJybcCJrCIpbcCJ",
  "rCIubcCJrCIvbcCJrCIwbcCJrCJsbcCJrCJtbcCJrCJxbcCJrCJybcCJsCIubcCJsCIvbcCJsCIwbcCJsCJtbcCJsCJxbcCJsCJybcCJtCIubcCJ",
  "tCIvbcCJtCIwbcCJtCJtbcCJtCJxbcCJtCJybcCJuCIubcCJuCIvbcCJuCIwbcCJuCJtbcCJuCJxbcCJuCJybcCJvCIubcCJvCJtbcCJvCJxbcCJ",
  "vCJybcCJyCIubcCJyCIvbcCJyCIwbcCJyCJtbcCJyCJxbcCJyCJybcCIyCLkbcCIzCLkbcCJxCLkbdBgCKaCKfbdBgCKbCKfbdBgCKcCKfbdBgCK",
  "dCKfbdBgCKeCKfbdBgCKfCLkbcCIoCIzbcCIoCJabcCIoCJtbcCIoCJubcCIoCJxbcCIoCJybcCIqCIzbcCIqCJabcCIqCJtbcCIqCJubcCIqCJx",
  "bcCIqCJybcCIsCIzbcCIsCJabcCIsCJtbcCIsCJubcCIsCJxbcCIsCJybcCItCIzbcCItCJabcCItCJtbcCItCJubcCItCJxbcCItCJybcCJpCJx",
  "bcCJpCJybcCJqCJxbcCJqCJybcCJrCIpbcCJrCJsbcCJrCJtbcCJrCJxbcCJrCJybcCJsCJtbcCJsCJxbcCJsCJybcCJtCIpbcCJtCJtbcCJuCIz",
  "bcCJuCJabcCJuCJtbcCJuCJubcCJuCJxbcCJuCJybcCJxCLkbcCJyCIzbcCJyCJabcCJyCJtbcCJyCJubcCJyCJxbcCJyCJybcCIoCIubcCIoCIv",
  "bcCIoCIwbcCIoCJtbcCIoCJvbcCIqCIubcCIqCIvbcCIqCIwbcCIqCJtbcCIqCJvbcCIsCIubcCIsCIvbcCIsCIwbcCIsCJtbcCIsCJvbcCItCJt",
  "bcCIuCIvbcCIuCJtbcCIvCIubcCIvCJtbcCIwCIubcCIwCJtbcCJbCIubcCJbCIvbcCJbCIwbcCJbCJtbcCJdCIvbcCJdCIwbcCJdCJtbcCJeCIu",
  "bcCJeCIvbcCJeCIwbcCJeCJtbcCJfCIvbcCJgCJtbcCJhCIubcCJhCJtbcCJiCIubcCJiCJtbcCJpCIubcCJpCIvbcCJpCIwbcCJpCJtbcCJqCIv",
  "bcCJqCJtbcCJrCIubcCJrCIvbcCJrCIwbcCJrCJsbcCJrCJtbcCJsCIubcCJsCIvbcCJsCIwbcCJsCJtbcCJsCJvbcCJtCIubcCJtCIvbcCJtCIw",
  "bcCJtCJtbcCJuCIubcCJuCIvbcCJuCIwbcCJuCJtbcCJuCJvbcCJvCIubcCJvCJtbcCJvCLkbcCJyCIubcCJyCIvbcCJyCIwbcCJyCJtbcCJyCJv",
  "bcCIoCJtbcCIoCJvbcCIqCJtbcCIqCJvbcCIsCJtbcCIsCJvbcCItCJtbcCItCJvbcCJbCJtbcCJbCJvbcCJcCJtbcCJcCJvbcCJrCJsbcCJrCJt",
  "bcCJsCJtbcCJuCJtbcCJuCJvbcCJyCJtbcCJyCJvbdCJoCKcCKfbdCJoCKdCKfbdCJoCKeCKfbcCJfCJxbcCJfCJybcCJhCJxbcCJhCJybcCJiCJ",
  "xbcCJiCJybcCJbCJxbcCJbCJybcCJcCJxbcCJcCJybcCIvCJxbcCIvCJybcCIuCJxbcCIuCJybcCIwCJxbcCIwCJybcCJdCJxbcCJdCJybcCJeCJ",
  "xbcCJeCJybcCJcCIubcCJcCIvbcCJcCIwbcCJcCJtbcCJcCIzbcCJbCIzbcCJdCIzbcCJeCIzbcCJfCJxbcCJfCJybcCJhCJxbcCJhCJybcCJiCJ",
  "xbcCJiCJybcCJbCJxbcCJbCJybcCJcCJxbcCJcCJybcCIvCJxbcCIvCJybcCIuCJxbcCIuCJybcCIwCJxbcCIwCJybcCJdCJxbcCJdCJybcCJeCJ",
  "xbcCJeCJybcCJcCIubcCJcCIvbcCJcCIwbcCJcCJtbcCJcCIzbcCJbCIzbcCJdCIzbcCJeCIzbcCJcCIubcCJcCIvbcCJcCIwbcCJcCJtbcCJbCJ",
  "vbcCJcCJvbcCJfCJtbcCJbCIubcCJbCIvbcCJbCIwbcCJcCIubcCJcCIvbcCJcCIwbcCJfCJtbcCJgCJtbcCIpCJzbcCIpCJztdCIsCIuCJtbdCI",
  "sCIvCIubdCIsCIvCIubdCIsCIvCJtbdCIsCIwCJtbdCIsCJtCIubdCIsCJtCIvbdCIsCJtCIwbdCIuCJtCIvbdCIuCJtCIvbdCIvCJtCJybdCIvC",
  "JtCJxbdCJbCIvCIubdCJbCIuCIvbdCJbCIuCJxbdCJbCJtCIvbdCJbCJtCIvbdCJbCJtCIubdCJbCJtCJtbdCJbCJtCJtbdCJdCIvCIvbdCJdCIv",
  "CIvbdCJdCJtCJtbdCJcCIvCJtbdCJcCIvCJtbdCJcCIuCJybdCJcCJtCIwbdCJcCJtCIwbdCJcCJtCJtbdCJcCJtCJtbdCJeCIvCJxbdCJeCIwCJ",
  "tbdCJeCIwCJtbdCJfCJtCIvbdCJfCJtCIvbdCJfCJtCJtbdCJfCJtCJybdCJhCIuCJtbdCJhCJtCJtbdCJhCJtCJtbdCJhCJtCJxbdCJiCJtCJtb",
  "dCJiCJtCJybdCJiCJtCJxbdCJpCIwCJtbdCJpCIwCJtbdCJqCJtCIvbdCJqCJtCJtbdCJsCIvCJtbdCJsCIvCJybdCJsCIvCJxbdCJsCIuCIubdC",
  "JsCIuCIubdCJsCIwCJtbdCJsCIwCJtbdCJsCJtCIvbdCJsCJtCIvbdCJtCIvCIubdCJtCIvCJtbdCJtCIvCJybdCJtCIuCIvbdCJtCIuCJtbdCJt",
  "CIwCIubdCJtCIwCJtddCJtCIuCIwbdCJvCJtCIubdCJvCJtCJtbdCJuCIvCJtbdCJuCIvCJxbdCJuCIuCJtbdCJuCIuCJtbdCJuCIuCJxbdCJuCJ",
  "tCJybdCJuCJtCJxbdCJyCJtCJtbdCJyCJtCJtbdCIqCIwCJybdCIsCIuCJybdCIsCIuCJxbdCIsCIwCJybdCIsCIwCJxbdCIsCJtCJybdCIsCJtC",
  "JxbdCIuCJtCJybdCIuCIvCJxbdCIuCJtCJxbdCJbCIwCJxbdCJdCIvCJybdCJcCIvCJybdCJeCIvCJybdCJsCIuCJybdCJsCJtCJybdCJyCIvCJy",
  "bdCJyCIuCJybdCJyCJtCJybdCJtCJtCJybdCJqCJtCJybdCJuCIvCJybdCJqCJtCIvbdCJsCIvCJtbdCJhCJtCJybdCJrCJtCJybdCJuCIuCIvbd",
  "CJtCIwCJybdCJsCIuCJtbdCJrCJtCJtbdCJsCIuCJtbdCJuCIuCIvbdCIuCIvCJybdCIvCIuCJybdCJtCIuCJybdCJpCJtCJybdCIqCIvCJybdCJ",
  "rCJtCJtbdCJhCIuCJtbdCJdCJtCJtbdCJbCIwCJybdCJuCIuCJyBpdCJdCJsCPebdCJqCJsCPebeCIpCJsCJsCJvbeCIpCJrCIqCIzbeCJtCIvCJ",
  "tCIxbeCJdCJsCJhCJtbeCIzCJbCJwCJsbeCJhCJsCJyCJvbeCJwCJbCJsCJtbdCJdCJsCJxbsCJdCJsCJxBgCIpCJsCJsCJvBgCJhCJsCJyCJvBg",
  "CJwCJbCJsCJtbiCIuCJsBgCIuCJsCIpCJsCJvbeCIzCOyCIpCJsCzcBgBDtbcBgBDtbcBgBDtbcBgBDtBkcBgCJzbcCJoCJzbcBgCKaccBgCKbcc",
  "BgCKcbcCJoCKcbcBgCKdbcCJoCKdbcBgCKebcCJoCKebcBgCKfbcCJoCKfbcBgCKgbcCJoCKgEocCJsCIkbcCJsCIkbcCJsCIlbcCJsCIlbcCJsC",
  "InbcCJsCInbcCJsCIpbcCJsCIpIxcBgBDsDNIccBwBsbcBxBsbcByBsbcBzBsbcCaBsbcCbBsbcCcBsbcCdBsbcCeBsbcCfBsgdBoDtBpbdBoDuB",
  "pbdBoDvBpbdBoDwBpbdBoDxBpbdBoDyBpbdBoDzBpbdBoEaBpbdBoEbBpbdBoEcBpbdBoEdBpbdBoEeBpbdBoEfBpbdBoEgBpbdBoEhBpbdBoEiB",
  "pbdBoEjBpbdBoEkBpbdBoElBpbdBoEmBpbdBoEnBpbdBoEoBpbdBoEpBpbdBoEqBpbdBoErBpbdBoEsBpbdSFkElSFldcDvDwbcEpEsBccEaEobc",
  "EfEobcElDwbcElElbdEiEiEobcEpDvBbcEfDvbcEfDwbcEfEkBkcDwEcEicSJjSHnbcSLnSLnCldSFkBNBwSFlbdSFkBDOjSFlbdSFkBDTkSFlbd",
  "SFkBIRhSFlbdSFkBQRxSFlbdSFkBLGdSFlbdSFkBTAdSFlbdSFkBFJxSFlbdSFkBMJvSFl"]

/-- The code points that vanish. -/
def vanishingTable : List String := [
  "GraZxaFIlbCKhbDheDApaDgeffGKyaCZMppJfaGeaCTOxdHWxhBTLJhJf"]

/-- The code points that may not stand in a name. -/
def barredTable : List String := [
  "EyBfBCabgnuaPhBoBybdaCdhBbdgqwaHkaBwbChbDxnChbBxbpaBcbbaleBggCxaGfaibcbwahabcebjbcbehbgfbzbdagdcbwahacacacbbafdc",
  "bdcbgeirjdajadawahacafbkadadbboebmghadaibcbwahacafbjbcbdgdgfbsjcagcdaeccabaccccdcmdfcdaebbfbnvenadaxaqbjadaegcad",
  "acbebkgwadaxakafbjadaegcedaebkadlnadaBzadagdqbBaadascyajabbhcbdgabaifkbdlCgdBdBkcabafayabaxbfabahakbeBfCuaBkdBna",
  "BkapanBkHqjOnaebhabaebBpaebBhaebhabaebpaCfaebCpbBgcBafDijYqaBccDlgwiyiulnadaclDqbkfkfBafDlgBreCsjBfamdmdbcBqbfkB",
  "sdBaflcCkbCnaBdblfkfobBubmtCzaGkhCicpcCkBxlhBreUojBmjigBfbCbapaobgatfjaobucbgCcCgBinBhoFkdZqvlDcCPkbOseBtabebbCe",
  "gcnyihahahahahahahahaEwBhBaaDlKhCmaDibDzeBrDrDijBvaQcwBQRscCdiNktHchIntCickfCehCshmfEmkBecDaaldBhaCdiobkbDzxBcjg",
  "bgbgihahaCidEwbkfQNslxdBxMNbOcGsBaoZaBfBinqaBhBdfPemaBaatacapboBhEteddBtcDkancbBuBuEzBdcBxoBcdBkiBeeBreBeaBldoBp",
  "GcbkBtBkdBohCakmBblapahaccCalLziwjixgErgbbaBsaccbbxaCuhjBvtaceBhcBbeBbBlCedubByaceiadaBdbddkgjgCmBfBndmiCccBdbBb",
  "eBagelhDbCvEoBzgBuhkfBmcBdhcHzBfaBqadbcpghjBgBuhBqvBaBlBctxiDadBkiCkafmzgkfCbashBniDsauksaBvCjhabaeapalfChekfeai",
  "bcbwahacafakbcbdbbfbehbhcfkkabbbaBmakabbbaeakachcBcDoafBdCuhkGjCcbBmBhCrkkfnsCgfkfuBbBbbpdxHcCiDvDflibbbiacaBeac",
  "bmikCribBublBaCuhDfmCvgkDhiDjBinkfjaBtaojBdcBgbwaoCuhacaBscbacajhkfgacaBlacaggkfBsdkJlzgraBpcBdDgboBymBJnDxEhafk",
  "HoDXjDvmBPgpwjFXreWlKDcCgCOrVxgBfakdDdakfBebgjCsjkahavetQpCgHpDnBfzBrCxdCfgrClfkhiKXyBoBgDsElMWqeahacaLfobBcdbbn",
  "ehPgDKtEdencjgkbiFVfJtcQufxoroBubxiEmChJmjBnbHmuCsErululDjizBQqBBaofapBQlBffgIeharbhacafDvbEhBtcobkdcMhBfqCgebRv",
  "BqIfBrdbHjBfawhcIphaeacapaHpbqBoCydkdcBEeCqCxCjQrcKjBsdDwlpbpapaBlkGrCdBdDogFxBLxcrcncIkfmdbomdCehkfBohBebmdcnjB",
  "mNghobnclcCfabdqbmdkgFraDzBNoCLFcBfGMobIOcbLBloXyGRpHHzeMOoBZLJx"]

/-- Every `stride`-th code point from `first` on, `count` of them, becomes the one as far after `target`. -/
structure Shift where
  first : Nat
  count : Nat
  stride : Nat
  target : Nat
  deriving DecidableEq, Repr

/-- Shifts: the first code point, and one less than the count and the stride, and the target. -/
def shiftsFrom (start : Nat) : List Nat → List Shift
  | gap :: more :: wider :: target :: ns =>
    ⟨start + gap, more + 1, wider + 1, target⟩ :: shiftsFrom (start + gap) ns
  | _ => []

/-- What a shift makes of a code point. -/
def Shift.apply? (s : Shift) (n : Nat) : Option Nat :=
  let d := n - s.first
  if s.first ≤ n ∧ d < s.count * s.stride ∧ d % s.stride = 0 then some (s.target + d) else none

/-- The characters that become a single other one. -/
def shifts : List Shift := shiftsFrom 0 (numbers shiftTable)

/-- The characters that become several. -/
def expansions : List Spelling := spellings expansionTable

/-- The spans of characters that vanish. -/
def vanishingSpans : List Span := spans vanishingTable

/-- The spans of characters that may not stand in a name. -/
def barredSpans : List Span := spans barredTable

/-- A character that is as it is decomposed, folded; none when it may not stand in a name. -/
def foldChar? (c : Char) : Option (List Char) :=
  if c.toNat < 0x80 then some [c.toLower]
  else
    match shifts.findSome? fun s => s.apply? c.toNat with
    | some n => some [Char.ofNat n]
    | none =>
      match expansions.lookup c.toNat with
      | some cs => some cs
      | none => if isIn vanishingSpans c then some [] else if isIn barredSpans c then none else some [c]

end Courier.Unicode
