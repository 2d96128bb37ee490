import Courier.Text.Unicode.Coded

/-!
# Canonical equivalence

What the characters of Unicode decompose to, which of them are composed again, and in which order marks stand.
-/

namespace Courier.Unicode

/-- The code points that are composed of two others, and these two. -/
def compositeTable : List String := [
  "HkCnBDobCnBDpbCnBDqbCnBDrbCnBDwbCnBDycCpBFbbCrBDobCrBDpbCrBDqbCrBDwbCvBDobCvBDpbCvBDqbCvBDwcDaBDrbDbBDobDbBDpbDb",
  "BDqbDbBDrbDbBDwdDhBDobDhBDpbDhBDqbDhBDwbDlBDpdDtBDobDtBDpbDtBDqbDtBDrbDtBDwbDtBDycDvBFbbDxBDobDxBDpbDxBDqbDxBDwb",
  "EbBDobEbBDpbEbBDqbEbBDwcEgBDrbEhBDobEhBDpbEhBDqbEhBDrbEhBDwdEnBDobEnBDpbEnBDqbEnBDwbErBDpcErBDwbCnBDsbDtBDsbCnBD",
  "ubDtBDubCnBFcbDtBFcbCpBDpbDvBDpbCpBDqbDvBDqbCpBDvbDvBDvbCpBEabDvBEabCqBEabDwBEadCrBDsbDxBDsbCrBDubDxBDubCrBDvbDx",
  "BDvbCrBFcbDxBFcbCrBEabDxBEabCtBDqbDzBDqbCtBDubDzBDubCtBDvbDzBDvbCtBFbbDzBFbbCuBDqbEaBDqdCvBDrbEbBDrbCvBDsbEbBDsb",
  "CvBDubEbBDubCvBFcbEbBFcbCvBDveCwBDqbEcBDqbCxBFbbEdBFbcCyBDpbEeBDpbCyBFbbEeBFbbCyBEabEeBEafDaBDpbEgBDpbDaBFbbEgBF",
  "bbDaBEabEgBEaeDbBDsbEhBDsbDbBDubEhBDubDbBDzbEhBDzdDeBDpbEkBDpbDeBFbbEkBFbbDeBEabEkBEabDfBDpbElBDpbDfBDqbElBDqbDf",
  "BFbbElBFbbDfBEabElBEabDgBFbbEmBFbbDgBEabEmBEadDhBDrbEnBDrbDhBDsbEnBDsbDhBDubEnBDubDhBDybEnBDybDhBDzbEnBDzbDhBFcb",
  "EnBFcbDjBDqbEpBDqbDlBDqbErBDqbDlBDwbDmBDpbEsBDpbDmBDvbEsBDvbDmBEabEsBEaBiDbBEpbEhBEpoDhBEpbEnBEpBdCnBEabDtBEabCv",
  "BEabEbBEabDbBEabEhBEabDhBEabEnBEabImBDsbJsBDsbImBDpbJsBDpbImBEabJsBEabImBDobJsBDocHoBDsbIuBDsbVeBDsbVfBDsbHqBDsb",
  "IwBDsdCtBEabDzBEabCxBEabEdBEabDbBFcbEhBFcbSwBDsbSxBDsbQxBEabZiBEabEcBEaeCtBDpbDzBDpdDaBDobEgBDobHpBDpbIvBDpbHqBD",
  "pbIwBDpbIiBDpbJoBDpbCnBEdbDtBEdbCnBEfbDtBEfbCrBEdbDxBEdbCrBEfbDxBEfbCvBEdbEbBEdbCvBEfbEbBEfbDbBEdbEhBEdbDbBEfbEh",
  "BEfbDeBEdbEkBEdbDeBEfbEkBEfbDhBEdbEnBEdbDhBEfbEnBEfbDfBFabElBFabDgBFabEmBFadCuBEabEaBEahCnBDvbDtBDvbCrBFbbDxBFbb",
  "IgBDsbJmBDsbIfBDsbJlBDsbDbBDvbEhBDvbVmBDsbVnBDsbDlBDsbErBDsNaGmBDpbBJdBDpcBJhBDpbBJjBDpbBJlBDpcBJrBDpcBJxBDpbBKb",
  "BDpbBLiBDpBaBJlBDwbBJxBDwbBKjBDpbBKnBDpbBKpBDpbBKrBDpbBLjBDpBaBKrBDwbBLdBDwbBKxBDpbBLdBDpbBLhBDpfBLqBDpbBLqBDwBs",
  "BOfBDobBOfBDwcBOdBDpeBNqBDwfBOkBDpbBOiBDobBOtBDulBOiBDuBgBPoBDuxBPlBDobBPlBDwcBPjBDpeBQsBDwfBPqBDpbBPoBDobBPzBDu",
  "yBRwBEdbBRxBEdCwBOgBDubBPmBDuoBOaBDubBPgBDubBOaBDwbBPgBDwdBOfBDubBPlBDudBVsBDwbBVtBDwbBOgBDwbBPmBDwbBOhBDwbBPnBD",
  "wdBOiBDsbBPoBDsbBOiBDwbBPoBDwbBOoBDwbBPuBDwdBWiBDwbBWjBDwbBPdBDwbBQjBDwbBOtBDsbBPzBDsbBOtBDwbBPzBDwbBOtBDzbBPzBD",
  "zbBOxBDwbBQdBDwdBPbBDwbBQhBDwLlCIpCKhbCIpCKibCJwCKibCIpCKjbCJyCKiFyCPhCKicCOnCKirCPeCKiXaDMeDMyiDMmDMydDMpDMyFvD",
  "ShDRybDShDSxOqEHbEHqdEHbEGsbEHbEHrCuEJyEMpCcELyELqbELzELqbELyEMpEuEQwERmEqEVnEWjhEVuEWjbEVuEWkcEVuEVqbEVyEWjExFA",
  "sFAkbFAtFAkbFAsFBjFmFGjFFucFGjFFzbFGmFFubFGjFGpWmGCzGDiEDcKGbKHxcKGdKHxcKGfKHxcKGhKHxcKGjKHxeKGnKHxBpKIcKHxcKIeK",
  "HxdKIgKHxbKIhKHxcKIkKHxBAzCnBEzbDtBEzbCoBDvbDuBDvbCoBExbDuBExbCoBFlbDuBFlbHrBDpbIxBDpbCqBDvbDwBDvbCqBExbDwBExbCq",
  "BFlbDwBFlbCqBFbbDwBFbbCqBFhbDwBFhbKoBDobKpBDobKoBDpbKpBDpbCrBFhbDxBFhbCrBFkbDxBFkbVgBDubVhBDubCsBDvbDyBDvbCtBDsb",
  "DzBDsbCuBDvbEaBDvbCuBExbEaBExbCuBDwbEaBDwbCuBFbbEaBFbbCuBFibEaBFibCvBFkbEbBFkbHzBDpbJfBDpbCxBDpbEdBDpbCxBExbEdBE",
  "xbCxBFlbEdBFlbCyBExbEeBExbLLmBDsbLLnBDsbCyBFlbEeBFlbCyBFhbEeBFhbCzBDpbEfBDpbCzBDvbEfBDvbCzBExbEfBExbDaBDvbEgBDvb",
  "DaBExbEgBExbDaBFlbEgBFlbDaBFhbEgBFhbIfBDpbJlBDpbIfBDwbJlBDwbMuBDobMvBDobMuBDpbMvBDpbDcBDpbEiBDpbDcBDvbEiBDvbDeBD",
  "vbEkBDvbDeBExbEkBExbLMwBDsbLMxBDsbDeBFlbEkBFlbDfBDvbElBDvbDfBExbElBExbNiBDvbNjBDvbNoBDvbNpBDvbLNeBDvbLNfBDvbDgBD",
  "vbEmBDvbDgBExbEmBExbDgBFlbEmBFlbDgBFhbEmBFhbDhBEybEnBEybDhBFkbEnBFkbDhBFhbEnBFhbNwBDpbNxBDpbNyBDwbNzBDwbDiBDrbEo",
  "BDrbDiBExbEoBExbDjBDobEpBDobDjBDpbEpBDpbDjBDwbEpBDwbDjBDvbEpBDvbDjBExbEpBExbDkBDvbEqBDvbDkBDwbEqBDwbDlBDvbErBDvb",
  "DmBDqbEsBDqbDmBExbEsBExbDmBFlbEsBFlbEaBFlbEmBDwbEpBDybErBDycOtBDvfCnBExbDtBExbCnBDxbDtBDxbHmBDpbIsBDpbHmBDobIsBD",
  "obHmBDxbIsBDxbHmBDrbIsBDrbLPoBDqbLPpBDqbJyBDpbJzBDpbJyBDobJzBDobJyBDxbJzBDxbJyBDrbJzBDrbLPoBDubLPpBDubCrBExbDxBE",
  "xbCrBDxbDxBDxbCrBDrbDxBDrbHuBDpbJaBDpbHuBDobJaBDobHuBDxbJaBDxbHuBDrbJaBDrbLQmBDqbLQnBDqbCvBDxbEbBDxbCvBExbEbBExb",
  "DbBExbEhBExbDbBDxbEhBDxbIeBDpbJkBDpbIeBDobJkBDobIeBDxbJkBDxbIeBDrbJkBDrbLRgBDqbLRhBDqbQaBDpbQbBDpbQaBDobQbBDobQa",
  "BDxbQbBDxbQaBDrbQbBDrbQaBExbQbBExbDhBExbEnBExbDhBDxbEnBDxbQpBDpbQqBDpbQpBDobQqBDobQpBDxbQqBDxbQpBDrbQqBDrbQpBExb",
  "QqBExbDlBDobErBDobDlBExbErBExbDlBDxbErBDxbDlBDrbErBDrhBKjBEhbBKjBEibLTgBDobLThBDobLTgBDpbLThBDpbLTgBGcbLThBGcbBJ",
  "dBEhbBJdBEibLToBDobLTpBDobLToBDpbLTpBDpbLToBGcbLTpBGcbBKnBEhbBKnBEibLTwBDobLTxBDobLTwBDpbLTxBDpdBJhBEhbBJhBEibLU",
  "eBDobLUfBDobLUeBDpbLUfBDpdBKpBEhbBKpBEibLUmBDobLUnBDobLUmBDpbLUnBDpbLUmBGcbLUnBGcbBJjBEhbBJjBEibLUuBDobLUvBDobLU",
  "uBDpbLUvBDpbLUuBGcbLUvBGcbBKrBEhbBKrBEibLVcBDobLVdBDobLVcBDpbLVdBDpbLVcBGcbLVdBGcbBJlBEhbBJlBEibLVkBDobLVlBDobLV",
  "kBDpbLVlBDpbLVkBGcbLVlBGcbBKxBEhbBKxBEibLVsBDobLVtBDobLVsBDpbLVtBDpdBJrBEhbBJrBEibLWaBDobLWbBDobLWaBDpbLWbBDpdBL",
  "dBEhbBLdBEibLWiBDobLWjBDobLWiBDpbLWjBDpbLWiBGcbLWjBGccBJxBEicLWrBDocLWrBDpcLWrBGcbBLhBEhbBLhBEibLWyBDobLWzBDobLW",
  "yBDpbLWzBDpbLWyBGcbLWzBGcbBKbBEhbBKbBEibLXgBDobLXhBDobLXgBDpbLXhBDpbLXgBGcbLXhBGcbBKjBDocBKnBDocBKpBDocBKrBDocBK",
  "xBDocBLdBDocBLhBDoeLTgBGfbLThBGfbLTiBGfbLTjBGfbLTkBGfbLTlBGfbLTmBGfbLTnBGfbLToBGfbLTpBGfbLTqBGfbLTrBGfbLTsBGfbLT",
  "tBGfbLTuBGfbLTvBGfbLUmBGfbLUnBGfbLUoBGfbLUpBGfbLUqBGfbLUrBGfbLUsBGfbLUtBGfbLUuBGfbLUvBGfbLUwBGfbLUxBGfbLUyBGfbLU",
  "zBGfbLVaBGfbLVbBGfbLWyBGfbLWzBGfbLXaBGfbLXbBGfbLXcBGfbLXdBGfbLXeBGfbLXfBGfbLXgBGfbLXhBGfbLXiBGfbLXjBGfbLXkBGfbLX",
  "lBGfbLXmBGfbLXnBGfbBKjBDubBKjBDsbLXoBGfbBKjBGfbBKeBGfcBKjBGcbMAgBGfbBJdBDubBJdBDsbBJdBDocBJdBGffGmBGcbLXsBGfbBKp",
  "BGfbBKgBGfcBKpBGcbMAwBGfbBJhBDocBJjBDocBJjBGfbMApBDobMApBDpbMApBGcbBKrBDubBKrBDsbBLiBDoeBKrBGcbBLiBGcbBJlBDubBJl",
  "BDsbBJlBDodMDaBDobMDaBDpbMDaBGcbBLdBDubBLdBDsbBLjBDocBKzBEhbBKzBEibBLdBGcbBLjBGcbBJxBDubBJxBDsbBJxBDocBJtBEibGmB",
  "DofLYaBGfbBLhBGfbBLmBGfcBLhBGcbMCsBGfbBJrBDocBKbBDocBKbBGfPyMSmBFsbMSoBFstMSqBFsBfMUyBFsbMVcBFsbMVaBFsCbMWxBFsfM",
  "XcBFsdMXfBFsyMYdBFscMYfBFsBbMZcBFsdMZjBFsdMZlBFscMZoBFsxCjBFscNAnBFslMZtBFsbCiBFsbCkBFsbNAqBFsbNArBFsdNBeBFsbNBf",
  "BFsdNBiBFsbNBjBFshNBmBFsbNBnBFsdNBuBFsbNBvBFsdNByBFsbNBzBFsBjNDaBFsbNDgBFsbNDhBFsbNDjBFsBxNBoBFsbNBpBFsbNCjBFsbN",
  "CkBFshNDqBFsbNDrBFsbNDsBFsbNDtBFsFBrSHnSKncSHpSKncSHrSKncSHtSKncSHvSKncSHxSKncSHzSKncSIbSKncSIdSKncSIfSKncSIhSKn",
  "cSIjSKndSImSKncSIoSKncSIqSKnhSIxSKnbSIxSKocSJaSKnbSJaSKocSJdSKnbSJdSKocSJgSKnbSJgSKocSJjSKnbSJjSKoxSHiSKnkSKrSKn",
  "oSLfSKncSLhSKncSLjSKncSLlSKncSLnSKncSLpSKncSLrSKncSLtSKncSLvSKncSLxSKncSLzSKncSMbSKndSMeSKncSMgSKncSMiSKnhSMpSKn",
  "bSMpSKocSMsSKnbSMsSKocSMvSKnbSMvSKocSMySKnbSMySKocSNbSKnbSNbSKoxSLaSKndSNvSKnbSNwSKnbSNxSKnbSNySKneSOjSKnDCPfDVD",
  "yBDvBbDVEgBDvEBmDZGbDZHicDZGdDZHipDZGnDZHiFbDZLxDZLnbDZLyDZLnUuEAGlEAGcbEAGlEAHbCdEAIsEALlcEAIuEAKxjEAJbEALedEAJ",
  "gEALlCaEALeEALecEALeEAKubEALeEALlJjEAUrEAUsbEAUrEAUicEAUrEAUvJsEBEmEBEdbEBEnEBEdBIjECMvECMqBBGbFDSwFDSwbFDSwFDTh",
  "bFDSwFDSxbFDThFDSxbFDSwFDSybFDSzFDSxbFDTaFDSxbFDSzFDSyEQqFIJvFIJvbFIJrFIJvbFIJxFIJv"]

/-- The other code points that decompose, and their full decompositions. -/
def replacementTable : List String := [
  "BGabBDobbBDpcbBEhbcBDwBDpBwbBAvkbChjbHbCFhcDLlDMybcDLmDMybcDLnDMybcDLsDMybcDLxDMybcDLyDMybcDMhDMybcDMlDMyEvcDQvD",
  "RwbcDQwDRwccDRjDRwDgcDWkDWudcDWqDWuBjcDViDWubcDVjDWubcDVoDWudcDWdDWuJucEFpEGqbcEFqEGqBMkcFUgFYtkcFUqFYtfcFUvFYtf",
  "cFVaFYtfcFVfFYtncFUeFYrkcFWbFWcccFWbFWebcFYoFWqccFYpFWqjcFWbFWqscFXiFYtkcFXsFYtfcFXxFYtfcFYcFYtfcFYhFYtncFXgFYrF",
  "YucBKjBDpccBKnBDpccBKpBDpccBKrBDpccBKxBDpccBLdBDpccBLhBDpCkcBJdBDpdbBKrlcBJhBDpccBJjBDpidBKrBDwBDpicBJlBDpidBLdB",
  "DwBDpicBJxBDpdcGmBDpbbDskcBJrBDpccBKbBDpcbGydbMDebbMDfLhbBKbebCxbcCnBDyTqbSEybbSEzCXucQGbBFsDABsbCBDgbbBMZsbbCCB",
  "ybbCBIebbBPZdbbBDPybbBFUbbbCILobbCILobbBHVlbbCDFtbbBGKdbbBHVcbbBLCobbBSVxbbBWHpbbBYVvbbBZKkbbBZWqbbCCTjbbBODubbB",
  "PIhbbBQTdbbBRWwbbBYCbbbCDBubbCGHtbbBDTabbBFPtbbBONsbbBRFnbbBYVdbbCHWwbbBJIubbBQJzbbBYRlbbCAAubbBLKrbbBXEmbbBZOhb",
  "bBJXibbBNBbbbBPLibbBROebbCCVubbBEDabbBEYpbbBFJybbBMEebbBOLvbbBRFcbbBTAtbbBWMjbbBYTqbbBYWybbCBTnbbCFGsbbCGWlbbCHV",
  "mbbBTQybbBUAhbbBVOybbBXXpbbCDRobbCIApbbCAPabbBHRbbbBJZobbBVCqbbBWRebbBRIgbbBTTibbCBHybbCFElbbBHQubbBIZqbbBOElbbB",
  "PPqbbBQBnbbBVKpbbBVUtbbCEXvbbBFJmbbBWRrbbBFAabbBEZkbbBUGibbBVQcbbBXZdbbCEZlbbCAVobbBLKxbbBODubbCAQobbBDQfbbBIUxb",
  "bBKJybbBRTnbbBSMibbBFMdbbBTVfbbBEFfbbBKFxbbBDOnbbBPFgbbBMLcbbBVKcbbBFStbbBHMcbbBTBtbbBYCnbbCANibbBOUsbbCCKubbBPC",
  "qbbBLMsbbBXOvbbBLSybbBSLxbbBDUsbbBEVpbbBEZhbbBNOzbbBVHvbbBXKhbbCAOwbbCDFrbbBFKvbbBFXqbbBHWtbbBJYqbbBMObbbBQKsbbB",
  "TXabbCERtbbCGMkbbCIBnbbCIDqbbBFHjbbBMXybbBOSdbbCCHubbBJUabbBKYqbbBLCybbBMCobbBQChbbBQXlbbBSDlbbBUDebbBVSebbBWQpb",
  "bCCFmbbBYIwbbCCPfbbCDUgbbBFChbbBFHrbbBGCjbbBQSmbbBZUobbCANibbBJXhbbBKIvbbBLRnbbBOUgbbBVBibbBRSvbbBDWubbBGYjbbBIU",
  "xbbBJMwbbBKKibbBRVebbBSCfbbBWIkbbBWPabbCDJobbCFEkbbCFHobbCFPobbBEDfbbBUCcbbCDEqbbCFCabbBKRxbbBDTebbBEQcbbBIVebbB",
  "IYhbbBMMjbbBODubbBRCobbBSUkbbBYJkbbCCSqbbCIKzbbBMVobbCEWsbbBFGrbbBNExbbBNJnbbBPJtbbBPXcbbBRYnbbBSLlbbBTPrbbBVJkb",
  "bCFSgbbBEVtbbBLEsbbCEZobbBEJjbbBJGrbbBPQgbbCCFqbbBKEtbbBKVsbbBNKxbbBRTnbbCFAcbbBFCzbbBFVrbbBIZtbbBMRbbbBNDebbBNQ",
  "mbbBPGfbbBRYkbbBSQsbbBWHdbbBZVbbbBZVtbbCDFobbCFDqbbBFNrbbBPYgbbBFWfbbBRCqbbBSEabbBYTebbCFBfbbCHFjbbCIBvbbBNFzbbB",
  "PPbbbBXFcbbBUNbbbBUQibbBVEobbBRLwbbBQQrbbCAUabbBDVkbbBXRybbBFDqbbBFBrbbBJVybbBLLbbbBVHebbBIRdbbBPIkbbBMXgbbCCGhb",
  "bBZQabbCEXxbbCAChbbBJXrbbBEUabbBGMidbBHLycbBMUudbBFAcbbBRPybbBSZqbbBTXsbbBTZabbBTZhbbBUAxbbCFIcbbBVGgbbBWJtcbBYU",
  "ccbCAQidbCCQabbCCXpebCFXvbbCFYibbCGAabbCHSubbCCWkbbCFBzbbBEEobbBEQpbbBEUnbbBFJdbbBFKebbBFOjbbBGKzbbBGPabbBGSubbB",
  "HKybbBHOybbBIZsbbBJAcbbBKOybbBKXcbbBKYobbBLCkbbBMJnbbBMPebbBMVxbbBNPdbbBPLvbbBPScbbBQCgbbBQYwbbBRGdbbBRZmbbBTRdb",
  "bBTXubbBTYfbbBTYebbBTYmbbBTYsbbBTYzbbBUAvbbBUAwbbBUHsbbBUKfbbBUWmbbBVSebbBVSzbbBVVdbbBWGwbbBWMnbbBXFhbbBXKrbbBXK",
  "rbbBYDbbbBZXobbCACsbbCAQrbbCASvbbCBIpbbCBKqbbCCLabbCCQabbCFDrbbCFOpbbCFQxbbBKNtbbILGgbbBXGydbBDPmbbBEYnbbBEVobbB",
  "ECubbBEUfbbBEWmbbBFJbbbBFLabbBGKzbbBGIfbbBGKvbbBGNqbbBHLybbBHPjbbBHUybbBHVobbBIFybbBINobbBJXqbbBJXxbbBKDlbbBKGbb",
  "bBKRobbBKWcbbBKTkbbBKYobbBKWubbBLCkbbBLEybbBLUibbBLXsbbBLZubbBMJubbBMUubbBNBbbbBNBfbbBNDmbbBOSfbbBOUsbbBPJtbbBPZ",
  "nbbBPYxbbBQCgbbBQLybbBQYwbbBTIdbbBRGnbbBRLfbbBRPybbBSCnbbBSIgbbBSKhbbBSSzbbBSTbbbBSZqbbBTAhbbBTBgbbBTEobbBTEebbB",
  "TTkbbBUMbbbBUWmbbBVDrbbBVMhbbBVSebbBWEwbbBWMnbbBXTabbBXZbbbBZHxbbBZZlbbCACcbbCACsbbCAOdbbCAQibbCAOpbbCAQrbbCAQob",
  "bCAPxbbCASvbbCAVybbCBKqbbCCGebbCCSgbbCDDpbbCDMcbbCEZsbbCFDrbbCFIcbbCFNfbbCFOpbbCFPbbbCFQxbbCGSwbbCILobbIBDybbIBD",
  "sbbIFNpbbWOzbbYHcbbYIjbbIRBlbbIVBcbbJHXzbbCIIdbbCILaCqcCFpCEeccCGoCEhlcCGfCErbcCGfCEsbdCGfCEmCErbdCGfCEmCEsbcCFg",
  "CEhbcCFgCEibcCFgCEmbcCFhCEmbcCFiCEmbcCFjCEmbcCFkCEmbcCFlCEmbcCFmCEmccCFoCEmbcCFpCEmbcCFqCEmbcCFrCEmbcCFsCEmccCFu",
  "CEmccCFwCEmbcCFxCEmccCFzCEmbcCGaCEmccCGcCEmbcCGdCEmbcCGeCEmbcCGfCEmbcCGgCEmbcCFlCEjbcCFhCEpbcCFrCEpbcCGaCEpDDBsc",
  "GUFvGUGjbcGUFwGUGjbdGUFwGUGjGUGsbdGUFwGUGjGUGtbdGUFwGUGjGUGubdGUFwGUGjGUGvbdGUFwGUGjGUGwDjcGUJpGUGjbcGUJqGUGjbdG",
  "UJpGUGjGUGsbdGUJqGUGjGUGsbdGUJpGUGjGUGtbdGUJqGUGjGUGtEHLgbBDQjbbBDQebbBDQnbbHMIkbbBEBobbBEEobbBEFbbbBEHubbBEMkbb",
  "BENpbbBEQpbbBEPrbbTYcbbHOGobbBEUnbbBEUubbBEVkbbBEWdbbHNVobbTZdbbBEVnbbBEWzbbHNXjbbBEXjbbBEXwbbBDVwbbBEYebbBEYnbb",
  "JPDnbbBFAzbbBFBnbbUApbbBFDrbbBFEcbbBFFubbBFFzbbUCrbbBFJbbbBFJdbbBFKebbBFLabbBFLlbbBFLmbbBFMdbbBFObbbBFOjbbBFOsbb",
  "BFPrbbBFQbbbBFQdbbBFQdbbBFQdbbHPTkbbBQPcbbBFTabbBFTvbbHQFjbbBFUhbbBFUnbbBFVibbBGBebbBFXgbbBFXwbbBFZcbbBGBibbBGEo",
  "bbBGFobbBGIdbbBGItbbBGKabbBGKabbBGKvbbBGLnbbBGLvbbBGMkbbBGZmbbBGPabbBGZnbbBGRxbbBGTgbbBFBrbbBHRqbbBHGobbBHIabbBH",
  "IzbbBHDzbbBHKkbbBHKjbbBHPcbbHTUybbBHRubbBHRzbbBHSobbBHTibbBHTqbbBHWcbbHUMibbHUOwbbBIBkbbBIDfbbBIDrbbBIAqbbBIGcbb",
  "UUwbbUVkbbBIMibbBIOkbbBIOkbbHVRcbbBITnbbBIUibbBIUxbbBIVjbbHWEabbBIVvbbBIWcbbBKCpbbBIXebbVAnbbBIZobbBJAcbbBJDgbbB",
  "JBhbbHXFobbBJIhbbHXFqbbBJJybbBJJvbbBJKmbbBJOjbbBJOkbbVHfbbBJPlbbBJRcbbBJRxbbBJTpbbVJebbHYPfbbVKebbBJWibbBJWlbbBJ",
  "WobbBJXibbJVVubbBJZibbHZFtbbHZFtbbBXGbbbBKAsbbBKAsbbVNbbbIFCqbbIWYsbbBKDebbBKDnbbVOdbbBKFibbBKHhbbBKHrbbBKIzbbBK",
  "OfbbVRmbbVQibbBKOybbIAPobbBKQxbbBKVwbbBKWabbBKWcbbBKWabbBKXubbBKYobbBKZybbBKZkbbBKZvbbBLBqbbBLCkbbBLCobbBLDobbBL",
  "DzbbBLGnbbBLJtbbBLLcbbBLPwbbICFcbbBLPdbbBLMqbbBLQubbBLRvbbBLVobbICNxbbBLXybbBLUjbbBLThbbWAwbbBMArbbBMBmbbBMCrbbB",
  "MBfbbWDgbbBMJnbbBMKqbbIECgbbBMPfbbBMZwbbBMTdbbWJxbbBMVxbbWJgbbWHwbbBEXebbBEXhbbBNAebbBMWibbBWSzbbZSbbbBNBbbbBNBf",
  "bbBNBlbbBNDubbBNDjbbIFMxbbWLtbbBNJubbBNFhbbBNNebbBNPdbbIFTlbbBNPmbbBNLfbbBNUqbbWOzbbBNWkbbBOAdbbBOCwbbBOKebbIGPf",
  "bbBOMdbbWTsbbBOOvbbIHJbbbBOQubbWVubbBORybbBOTrbbBOUsbbBOUtbbIIBtbbHWXfbbIIFybbBPAkbbIIXgbbBPEtbbBPFhbbBPBjbbBPIc",
  "bbBPJqbbBPLvbbBPJtbbBPLhbbBPLwbbBPMjbbIJBabbBPJgbbBPSxbbBPVibbXEpbbBPYxbbBPYtbbIJRtbbBPQvbbBQFebbIJXebbIJZabbBQI",
  "obbBQMzbbBQLybbBQLvbbXIkbbBQNqbbBQPpbbBQPjbbBQRlbbHNVxbbBQXhbbILAxbbBRAqbbILNnbbBRGabbBRGnbbBRHobbIMKubbBRJkbbBR",
  "KfbbIMWjbbINEybbBRTabbBRTrbbXTcbbBRUrbbXTobbXTobbBSAxbbBSBsbbBSCnbbBSDhbbBSFybbXXjbbBSJkbbIOTqbbBSKkbbIOXebbBSMi",
  "bbHYQhbbBSSmbbIQBhbbIQCebbIQHobbYGabbYGmbbBTBgbbIQOhbbIQOgbbIQPtbbIQQtbbBTCwbbBTCxbbBTCxbbBTEobbYIjbbBTHbbbYIwbb",
  "YLybbIRTlbbBTOobbBTQybbBTTkbbYOxbbISNmbbBTYsbbISRybbISTpbbBUAxbbBUElbbYRvbbBUHsbbBUIcbbBUIhbbITUibbIUFvbbIUFvbbB",
  "UOkbbYZybbIUPvbbBUWsbbBUWvbbZBjbbIUYabbBVHabbZGabbBVHwbbBVHrbbBVIubbIWBubbBVMpbbZJtbbBVQlbbBVSsbbBVVhbbZLsbbIXBs",
  "bbIXCxbbZNdbbIXInbbBWHebbIXMkbbBWIfbbBWMcbbBWMnbbIYCgbbIYFbbbBWQabbIYKebbBWQqbbIFJbbbZRxbbBWTebbBWWhbbZTzbbBWYob",
  "bBIJdbbIZDvbbIZEjbbIFLbbbIFLkbbBXGbbbBXGebbCCKcbbZXrbbBXLpbbBXLjbbBXMbbbBFIhbbBXMvbbBXMxbbBXNhbbBXOwbbJANcbbBXOv",
  "bbBXQzbbBXTrbbBXWnbbBXRfbbBXXdbbBXYtbbBYDbbbBXTbbbBXXqbbBXXsbbBXYibbJAWsbbJBIpbbJBCvbbBAFbbbBYIzbbBYJbbbBYKkbbJD",
  "TibbBYNkbbJBZwbbBAGzbbBAHdbbJCEzbbJCQcbbBAHnbbBYWmbbBYWybbBYXjbbBYXlbbBYZxbbBYYqbbBZDubbBZCcbbBZHxbbBZEubbBZHjbb",
  "BZIkbbBALrbbBZLxbbBZNdbbBAMzbbBZQubbBZQxbbJETbbbBZVjbbBZVqbbBAPhbbBZWsbbTZfbbJFPmbbJFWobbBAUobbBAUxbbCAMybbCAPxb",
  "bCAVybbCBDtbbJHCqbbCBHbbbCBHxbbCBLjbbCBOxbbJIBnbbHOYebbCBSdbbCBRobbCBTobbHPGobbCCCibbCCGebbJKOwbbJKPxbbCCTobbCCX",
  "dbbCCYjbbJLCgbbCCYtbbCDJsbbCDPvbbCDPwbbCDMibbCEAzbbCECbbbJMXmbbCEQlbbBBWnbbCESdbbJNMdbbBBZqbbCFClbbBJMobbCFGdbbJ",
  "OXpbbJPFubbBCEwbbBCFebbCFNkbbJPYwbbBCHmbbJQEgbbCFPbbbCFPbbbCFQfbbJQPibbCFXibbBCMlbbCGAbbbCGExbbCGFybbCGIgbbBCSkb",
  "bJSRgbbCGSwbbCHEmbbCHLtbbBDCgbbBDDlbbCHPvbbJUUobbBDDwbbJUWrbbJVGwbbJVLxbbCICxbbBDHmbbCIFhbbCIFmbbCIFtbbCIGdbbCIG",
  "kbbCIHvbbJWTs"]

/-- The code points with a combining class other than zero. -/
def combiningTable : List String := [
  "BDouIwaaIyadImaaIyaaIiaeImabHuadImabHuakImaebadImajIwacImacIwabImbcIwadImaaIwaaIyabImaaIwaaIzabJaaaIzabJaaaIzamI",
  "wKpeIwKfaImadIwaaImacIwaaIoaaImafIwafImabIwaaImabIwaaIoaaIuaaIwaakaalaamaanaaoaapaaqaaraasabtaauaavaawbaxbayaazb",
  "aIwaaImbasCuhIwaaBeaaBfaaBgBwaBbaaBcaaBdaaBeaaBfaaBgaaBhaaBiabIwabImaeIwaaImabIwaaImqaBjDxgIwcdIwaaImaaIwcbIwbaI",
  "mabIwaaImBjaBkBeaIwaaImabIwaaImabIwacImaaIwabImaaIwaaImacIwaaImaaIwaaImaaIwaaImaaIwaaImabIwGegIwaaImaaIwjaImydIw",
  "biIwbcIwbeIwBrcImChbIwacImadIwBqeIwaeImanIwbaImabIwaaImabIwaaImacIwacImaaBbaaBcaaBdacIwaaImabIwabImaeIwCiahqajda",
  "IwaaImabIwDzahqajBwaIwCjahqajEgahqajEgahqajExajEgahqajhaDgaaDnDxahqajEfbjqajEuajEfbDzaajndEdEebEoaajndEsCybImBba",
  "ImbaImbaIiCdaEzaaFabaFcfdFacaFabbIwaajbbIwCkaImEiahbbjDeaImBBrcIwBKmbjBeajGbajkaIwHvaIuFnaIoaaIwaaImIlaIwaaImCta",
  "juhIwcaImBweIwafImabIwaaImbbImabIwabImaeIwaaImarIwaaImcfIwaaImadIwaaJaCuahpajBmaIwaaImagIwCcbjCgahlbjCpahFwcIwba",
  "baeImabIwadImaaIwbgbeaImgaIwdbIwHqbIwaaImagIwaaImabIwaaJaaaIgaaImaaHuaBkIwaaIyabIuaaImaaIkaaIwaaIzaaImaaIwaaImBB",
  "sbIwabbadIwacbabIweaIwdbbaaIwaaImaaIwabbadImaaIwEOccIwFlajDsBfIwViaIkaaIuaaIyaaIoabIqEbbiBSQeaIwejIwBgbIwDcbIwKq",
  "ajBlajFvajBbrIwCfcImBlajDrahmajJfaIwbbIwaaImcbIwfbIwbaIwCaajJmajBDZsaBaBDpgIwagImabIwBLlaImIsaImFteIwCMsaImbaIwB",
  "oaIwaabaaImeajGjaIwaaImWbdIwCneIwMfbIwCzbImbcImCsbImacIwaaImaaIwadImBxaIwaaImaaIwaaImHkajBpajoajCfajaahCrcIwBwbj",
  "CkahCyajjahEcajaahGwahaajDcbhqajyoIwDlcjEjajdahxaIwDvajaahJrajaahEwajEoajaahElajKjajaahJybjeahGaajDfajsajDdajQfa",
  "jJyahbbjDdajQjbjYZcajDSaebChgIwBUnbgBDAyabHWobIiacbdaIsaeIiihImceIwabImBedIwFscIwFFfFnIwGegIwOlaIwCjdIwTobIyaaIm",
  "aaIwJuaIwaaImJjaIwcaIwhbIwfaIwSggImEffIwaah"]

/-- Composites: a code point and the two it stands for. -/
def compositesFrom (start : Nat) : List Nat → List (Nat × Char × Char)
  | gap :: a :: b :: ns => (start + gap, Char.ofNat a, Char.ofNat b) :: compositesFrom (start + gap) ns
  | _ => []

/-- The composites. -/
def composites : List (Nat × Char × Char) := compositesFrom 0 (numbers compositeTable)

/-- The characters that are replaced for good. -/
def replacements : List Spelling := spellings replacementTable

/-- The spans of marks that are put in order, with their classes. -/
def combiningSpans : List Span := kinds combiningTable

/-- The combining class of a character, zero for one that no mark is moved across. -/
def combiningClass (c : Char) : Nat := if c.toNat < 0x300 then 0 else kindOf combiningSpans c

end Courier.Unicode
