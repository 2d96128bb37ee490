import Courier.Text.Unicode.Coded

/-!
# Marks, cursive joining and direction

Properties of the characters that may stand in the names of hosts. They say nothing about other characters.
-/

namespace Courier.Unicode

/-- The code points of marks. -/
def markTable : List String := [
  "BDoEhKpgKdBsbabbbbbaCukBwuqaDxgcfcbbdBjaBeBaDnkCgijaydbibcbeBrcChiBqCfCccbrbgkbBdcCeabpjakbBafCevBebdalcCeabpubw",
  "jCeabzkbBeaChpjaBoeCdabylbBdcCeabylbpqCdbbpjakbBdcCsvsbCjacgmhDuacilgCvbBbababaebBxtbbfBvjaDwtxdecbccgddnlbakdBB",
  "bcBKkdBccBdbBebCoBdjaGlbBiaEoBbIleCfBqBwDgBvqBmimcBemCenBwtFwcbueagaccHqClBBsBgEOccFlaDsBfVifEbbBSQedbjBgbDcbKma",
  "daeaxeeaDfbByrBarnaBmhzmBsdBvnBkaCpnmaibBtcByabccbfbbaBpefbJchbbBDZsaBDppBLlaIsaFteCMgoBohGjbWbdCneMfbCzfCskBxdE",
  "scCboBpacbkdBtkhaCjcBknqbBsamcBwnidbbDolgacaGblvdCdbbpjaksCpybaobDerxaDdtJbrBbbDeqEcmDxoJwoJlobabbFlpdaBcjBogbdi",
  "ajkBupHqhHrqDeBkEsubaConNjdjbbaBwoxaHXtagoQYyrDSaeChgBOiabCnDdnBDAxbGYzCsUwedvcgBedFscCYdCceBxiaoawuCAiFnGegOlaC",
  "jdTodJubJjacahbfaSggEfg"]

/-- The code points that join: to the one after, to the one before, to both, or not at all. -/
def joiningTable : List String := [
  "BDoEheKpgeKdBsebaebbebbebaeCukefadbdcaadaacaadaacaedadcamdbgdaacabdaueobdaaeaccfodarcaBldaacabdaicaadaacaadaacab",
  "dabcbacagecfecbebdeabckcdcadqacaaeacdaecaddaacaidaacaadaacaadaacabdaacaBaecacakdaccaodabcaddaacaadabcacdabcafdBm",
  "kezBgdaiejaeydebiebcebeesacaedabcaadaacajdaacaadaccaceeadbddbacaadazcdadcedaacaadhieajdaccbacabdabcafdaacaodbCee",
  "CdaebaeeheeaedgekbeBdaeCgaeedeiaeubeBaeeCfaeeqeBebedaelbeCfaeeheeaeubewheCgaecaebdeijelbeBeaeCjaemaeByaedaeCdaeb",
  "cefqelbeBdaeCgaecaegaefbeubeBcbeCfbeedeiaeubeBdaeCuaeheeDmaecgemheDuaecielgeCvbeBbaebaebaeCdnebeebbefBvejaeDydeb",
  "febbecbezbeeceqdenaecbegaepaeBBbceBKkceBdbeBebeBebeCpgeiaeckejaeBpadyDkdmbeaBhdaaeaadEnceebejaegceIlbecaeCgaebie",
  "baechegmeBwDfeBwaebeebaefaeBoiembeBgdecbebceCeaebbedaebceCghecbeFwcebmebgeeaegaedbeHqCleBBsBgeEOcceFlaeDsBfeVide",
  "EdbeBSQedebjeBgbeDcbeKmaedaeeaezbefaetBxdaabDdbeBarenaeBmhezkeBuceBwaecdecbeBnaeCpfecbecbemaeiaeBvaeBzaebcecbefb",
  "ebaeBqbeiaeJeaecaeeaeBDZsaeBDppeBLlaeIsaeFteeCMgoeBoheEyedaacbacbbccabaecaddaabaedaacacdaaccacabeeddaacFoadaacaa",
  "daccacdaacabdaacaadabcaadaacxdcabdMzabaBgdaacaadadeCneeMfbevacabdbbdByfeBwcdaacaqdbkeacdaacBbddabcaldadeBqadbbda",
  "ccbadabcabdaacabdbadabcaadeacaadaabCbaeCcoeBpaecbekceBxdecbehaeCjceBkeebheCkaembeCaiekdecaeDrcecaebbegaecaeGbaed",
  "hevbeCfbedaeBloeCsfenaebaebaeobeDhheccebaexaeDgfebaeebebbeJedegbebbeBbbeDhhecaebbeEcaebaecfebaeDxaebaecdebeeJzie",
  "bbeJwbebaeeaeFoheeaeBgjeBofecdeiaejfecceBumebbeHqaebcebaeHtnebaeDevecgebbebbeEsuebaeCubedaebaeNjbelbeCaeefaebaex",
  "aeHXtaegoeQYyledceDSaeeChgeBOiaeCldeDdaeBDBkbeGYzCseUycerhecgeBedeFsceCYdCceeBxeiaeoaewueCAiFneGegeOlaeCjdeTodeJ",
  "ubeJjaecaehbefaeSggeCxBhdahe"]

/-- The code points that are not written from left to right. -/
def directionTable : List String := [
  "aieaeganeaegaoeajdaBmeBaDoeBfaeRhbehnecBbebqeaEhffaeEyaeFkgfJwfebBsfaabaafaababfaababfaabaafiBkbrbeaababeaabaaea",
  "ababeakfaBvbaufajcaaeabcacbaafaDwbagfbaeaffabbabfaaeadfabbajdawbaafaBdbaBafcDkbakfaCfbaifabbadeaabcafaxbadfaabai",
  "faabacfaabaefcBobacfcBxbhifaBpbaCefCdafbafehfeafdgfkbfBdafCgafedfiafubfobehaecefCfafeqfBebfdaflbfCfafehfeafubfna",
  "eihfCgafcafbdfijflbfBeafCjafmafBlhefafdafCdafbcffqflbfugecafCgafpbfubfBcbfCfbfedfiafubfBdafCuafhefDmafcgfeaehhfD",
  "uafciflgfCvbfBbafbafbafadeBznfbefbbffBvfjafDydfbffbbfcbfzbfecfqdfnafcbfgafpafBBbcfBwjeDyaeZqbeEncfBdbfBebfBebfCp",
  "gfiafckfhaebafsBaeEsbfBiafEocfebfjafgcfefeFwBhexbfcafCgafbifbafchfgmfBwDffBwafbefbaffaflbeBbiflaeabfBgdfcbfbcfCe",
  "afbbfdafbcfCghfcbfFwcfbmfbgfeafgafdbfHqClfUeGzeoBgftCveCiQleCrzebBEjebNaeJwBDneIvfeecfhgeExafDsBffaTwedyejdfcaeg",
  "aefceDlbffaeDmaeHoBleKOgCleBGUiCceMoceDrdfaaeajfabeBebfDcbfoBheDyaeErafdafeafzbfbdeaaflbeCgdeCybfBarfnafBmhfzkfB",
  "ucfBwafcdfcbfBnafCpffcbfcbfmafiafBvafBzafbcfcbffbfbafBqbfiafElbeErafcafeafBDZsafFrqbaWaeBgpfvbeBsabZdaeCkCyedqeD",
  "oafIsafaBadEsefBSnKxbdaeaIqbaofaBlbchfaGibabfeCwbdgeaSpbadfijcgpbzefaaeawbibeIaBecbBpbbbfaBabiieBhffaCrbakfaBwba",
  "dfaEibkafCcofltekafcbfkcfBxdfcbfhafCjcfBkefbhfCkafmbfCaifkdfcafDrcfcafbbfgafcafGbafdhfvbfCfbfdafBlofCsffnafbafba",
  "fbeeibfDhhfccfbafxafDgffbafebfbbfJedfgbfbbfBbbfDhhfcafbbfBfmeCkafbafcffbafDxcfcdfbefJzifbbfJwbfbafeafFohfeafBgff",
  "cbfBoffcdfiafjffccfBumfbbfHqafbcfbafEsaeDanfDgvfcgfbbfbbfEsufbafCubfdafbafNjbflbfCaeffafbafxafEsBceHRyafgofQYylf",
  "dcfDSaefChgfVuceSlafCldfDbaebafBDBkbfFVlBCyepCsfUycfrhfcgfBedfChDkeacfaaeHeDieCNpCcfeBxfiafoafwufCAiFnfGegfOlafC",
  "jdfpaeSydfJubfpaeItafcafhbffafKgHzbagfCxBhbagfaBMwbQsWdeCjceCjaeGwDQoe"]

/-- The spans of marks. -/
def markSpans : List Span := spans markTable

/-- A character that is a mark. -/
def isMark (c : Char) : Bool := isIn markSpans c

/-- How a character joins its neighbours in cursive writing. -/
inductive Joining
  | alone
  /-- Only to the one after it. -/
  | onward
  /-- Only to the one before it. -/
  | backward
  | both
  /-- The neighbours join across it. -/
  | transparent
  deriving DecidableEq, Repr

/-- The spans of characters that join, with the number of their kind. -/
def joiningSpans : List Span := kinds joiningTable

/-- How a character joins. -/
def joining (c : Char) : Joining :=
  match kindOf joiningSpans c with
  | 1 => .onward
  | 2 => .backward
  | 3 => .both
  | 4 => .transparent
  | _ => .alone

/-- Which way a character is written. -/
inductive Direction
  | leftToRight
  | rightToLeft
  /-- A digit of the Arabic kind. -/
  | arabicDigit
  /-- A digit of the European kind. -/
  | europeanDigit
  /-- A character that follows its surroundings. -/
  | neutral
  /-- A mark that goes with the character before it. -/
  | attached
  /-- A blank, or a control that separates. -/
  | separator
  deriving DecidableEq, Repr

/-- The spans of characters that are not written from left to right, with the number of their kind. -/
def directionSpans : List Span := kinds directionTable

/-- Which way a character is written. -/
def direction (c : Char) : Direction :=
  match kindOf directionSpans c with
  | 1 => .rightToLeft
  | 2 => .arabicDigit
  | 3 => .europeanDigit
  | 4 => .neutral
  | 5 => .attached
  | 6 => .separator
  | _ => .leftToRight

end Courier.Unicode
