import Courier.Text.Unicode.Coded

/-!
# Letters and digits

The characters that are alphabetic or numeric in any script.
-/

namespace Courier.Unicode

/-- The code points with the property Alphabetic and those of a numeric category. -/
def alphanumericTable : List String := [
  "BwjhzgzBvahbbadbbcbwbBebRpeloehabaDiaBdrbbcdbagabcbabtbDebFiiGjbBlcagBoBnnbabbbbbaiBaedBdkfCdbqeDxbhehepcaqBvnDw",
  "oBqjbeafxcstyhkfxbghaiBpkldggCxbpbceocjbsbhcbcvbgbadddhcbcbbaiaebbeclcfcaecbfebcvbgbbbbbbeeebcbeahdbahplcbibcbvb",
  "gbbbedibcbbdapdcjjdecbhcbcvbgbbbedhcbcbjbebbecjbgkbbfdcbddbbabbdbdcdleedcbcdagaomnmbcbwbpdhbcbcibbcbbcdcjigbdbhb",
  "cbwbjbedhbcbcibfcbdcjbcmmbcbBochbcbcbafpcsbfbcbrdxbibacgifbabhgjcbnCffggacjBnbbabebxbabsbccebagacjcdBgaBftmhbBje",
  "sepbBjCpCcbacogCzcBlbafacBqbMubdcgbabdcBobdcBgbdcgbabdcobCebdcCootdpqDhcfdXvcqbzfCwdkhtlumtmmbcbbmBzcsoaeadjgjwj",
  "gDkhBqfCrkBebleinBncelBrezgkBlBbeCkctljgjnaxblcBxBzbobhdjBmBpcCfbkoCcjjdBwckfBqccBpdbfbbdafHjtBhlKrcfcBlcfchbaba",
  "babBecCabgbadcbgddcfemfcbgElbcffkgmDxaeacjbadegabababdbkcdfeeabCfBByChBaCvYgBdBRoIugddbjacBlbafacCdhaqwjgbgbgbgb",
  "gbgbgbgbBfBvaSbcziheceeDhgcbDlbdfBqbDpddkBfBwpBgjBehboBgjBnoMiJTnCmBGUeCpBtcKidBbuBufhdEiBnicDycDduubBgifkBzmCpb",
  "akjyfdabBtfBinBcdByblpkgBebCcjncjgwdCqbabayccpcdlfcfcfjgbgbBqbngEsfjgQNrmweBwMNcObcEbBmgmeflbmbebabbbbbEdBhNysCl",
  "cCbBolEmebFetjhzgzlDkdfcfcfccBjlbzbsbbbocnBiEsmBsmCerbJkBcdBwqBaeBjjBdfBqfBdcBjehbeBqGbcjgBjeBjeBniBzmkbobgbbbkb",
  "obgbbdBzmLyjvkhyfbBpbiCrfcabBrbbdacwcBecBliiBwsbbfBgezgzBmCdetcBxbbfhbcbBckixBebBfBghbBbgeqCbkvcBafzxgDcCuCdBynB",
  "yhBtijgBldafwIkBebBpbbdbqfBycdBnivldBbrBuBbuwjCrmBdbekCejanyhjgBydjediBidajClbdjmbaetlrbBhcagdCkgbabdbobjhCehjgd",
  "bhcbcvbgbbbedhcbcbdagafgBcjbacabBlbjbacabdbbdabaBsCnbcbdfjfcBeCncbbaijGkCbcgzfBiCkbadaljBmCbcahjgtBcBacnflegHdCe",
  "DzDemhcachbbbBdbbcbcdnjCshcBtcfbabbBbBycjrCtfasCuDzhDkBgpjgibBsbgbapBcfBdcvbnCvgbbbBrdabbbcbacbijgfbbbBkbbbdbahj",
  "gBrejJmwjqbBodcpjDiapuBrBJlDyEgrHnDXkDspBPfrfzFXqfWkKDdBubjCOsVwhBebjgDabjgBdsBvqdmjbgbufsQqBsdjHqDijycyBsCweCeh",
  "qCmbbamgjKXxBpBfDtEkMWrdbgbbbLepaBdccaodiPfDKuEcfmdihjeaGErjCEwtmtEeyFfDgbCsbbcacbcdblbabgbCmbdchbgbBbbdbebadgbN",
  "bcybybBebybBebybBebybBebybhcBxCQyBegfIfgbqcgbbbefCjBhaEiBskgcjeaMjBdsBrejScBbejIgBdckHpBebvibIqgbdbbbobHociBwCpd",
  "adaejBElCgbcbdCyBsboHmdbBabbbacabjbdbabagaeabababcbbbacabababababbbacdbgbdbdbabjbqfcbebqWimBjzgzgzDYkjBNqCLFbBgG",
  "MncIObcLBkpXxDQwUvCFyHHyfMOn"]

/-- The spans of letters and digits. -/
def alphanumericSpans : List Span := spans alphanumericTable

/-- A letter or a digit of any script. -/
def isAlphanumeric (c : Char) : Bool := if c.toNat < 0x80 then c.isAlphanum else isIn alphanumericSpans c

end Courier.Unicode
