import RuleGateway.Text.Property
import RuleGateway.Url.Domain.Composition

/-!
# Labels

Not every text of characters that names may have is a label of a name. A label
does not start with a mark, and an invisible joiner stands only where it changes
how its neighbours are written: behind a mark that silences a vowel, or, if it
separates, between two letters that would join.
-/

namespace RuleGateway.Domain

/-- Where characters are marks (`M`) and where they are not (`N`). -/
def marks : Property := .ofText "
  300M 371N 483M 48bN 591M 5beN 5bfM 5c0N 5c1M 5c3N 5c4M 5c6N 5c7M 5d0N 610M 61bN 64bM 660N 670M
  671N 6d6M 6deN 6dfM 6e5N 6e7M 6e9N 6eaM 6eeN 711M 712N 730M 74dN 7a6M 7b1N 7ebM 7f4N 7fdM 7feN
  816M 81aN 81bM 824N 825M 828N 829M 830N 859M 85eN 897M 8a0N 8caM 904N 93aM 93dN 93eM 950N 951M
  960N 962M 964N 981M 985N 9bcM 9bdN 9beM 9ceN 9d7M 9e0N 9e2M 9e6N 9feM a05N a3cM a5cN a70M a72N
  a75M a76N a81M a85N abcM abdN abeM ad0N ae2M ae6N afaM b05N b3cM b3dN b3eM b5fN b62M b66N b82M
  b83N bbeM bd0N bd7M be6N c00M c05N c3cM c3dN c3eM c58N c62M c66N c81M c84N cbcM cbdN cbeM cdcN
  ce2M ce6N cf3M d04N d3bM d3dN d3eM d4eN d57M d58N d62M d66N d81M d85N dcaM de6N df2M df4N e31M
  e32N e34M e3fN e47M e4fN eb1M eb2N eb4M ebdN ec8M ed0N f18M f1aN f35M f36N f37M f38N f39M f3aN
  f3eM f40N f71M f85N f86M f88N f8dM fbeN fc6M fc7N 102bM 103fN 1056M 105aN 105eM 1061N 1062M
  1065N 1067M 106eN 1071M 1075N 1082M 108eN 108fM 1090N 109aM 109eN 135dM 1360N 1712M 171fN 1732M
  1735N 1752M 1760N 1772M 1780N 17b6M 17d4N 17ddM 17e0N 1885M 1887N 18a9M 18aaN 1920M 1940N 1a17M
  1a1eN 1a55M 1a80N 1ab0M 1b05N 1b34M 1b45N 1b6bM 1b74N 1b80M 1b83N 1ba1M 1baeN 1be6M 1bfcN 1c24M
  1c3bN 1cd0M 1cd3N 1cd4M 1ce9N 1cedM 1ceeN 1cf4M 1cf5N 1cf7M 1cfaN 1dc0M 1e01N 20d0M 2104N 2cefM
  2cf3N 2d7fM 2d80N 2de0M 2e00N 302aM 3030N 3099M 309dN a66fM a673N a674M a67eN a69eM a6a0N a6f0M
  a6f2N a802M a803N a806M a807N a80bM a80cN a823M a828N a82cM a830N a880M a882N a8b4M a8ceN a8e0M
  a8f2N a8ffM a900N a926M a92eN a947M a95fN a980M a984N a9b3M a9c1N a9e5M a9e6N aa29M aa40N aa43M
  aa44N aa4cM aa50N aa7bM aa7eN aab0M aab1N aab2M aab5N aab7M aab9N aabeM aac0N aac1M aac2N aaebM
  aaf0N aaf5M ab01N abe3M abebN abecM abf0N fb1eM fbb2N fe20M fe45N 101fdM 10280N 102e0M 102e1N
  10376M 10380N 10a01M 10a10N 10a38M 10a40N 10ae5M 10aebN 10d24M 10d30N 10d69M 10d6eN 10eabM
  10eadN 10efaM 10f00N 10f46M 10f51N 10f82M 10f86N 11000M 11003N 11038M 11047N 11070M 11071N
  11073M 11075N 1107fM 11083N 110b0M 110bbN 110c2M 110d0N 11100M 11103N 11127M 11136N 11145M
  11147N 11173M 11174N 11180M 11183N 111b3M 111c1N 111c9M 111cdN 111ceM 111d0N 1122cM 11238N
  1123eM 1123fN 11241M 11280N 112dfM 112f0N 11300M 11305N 1133bM 1133dN 1133eM 11350N 11357M
  1135dN 11362M 11380N 113b8M 113d1N 113d2M 113d3N 113e1M 11400N 11435M 11447N 1145eM 1145fN
  114b0M 114c4N 115afM 115c1N 115dcM 11600N 11630M 11641N 116abM 116b8N 1171dM 11730N 1182cM
  1183bN 11930M 1193fN 11940M 11941N 11942M 11944N 119d1M 119e1N 119e4M 11a00N 11a01M 11a0bN
  11a33M 11a3aN 11a3bM 11a3fN 11a47M 11a50N 11a51M 11a5cN 11a8aM 11a9aN 11b60M 11bc0N 11c2fM
  11c40N 11c92M 11d00N 11d31M 11d46N 11d47M 11d50N 11d8aM 11d98N 11ef3M 11ef7N 11f00M 11f02N
  11f03M 11f04N 11f34M 11f43N 11f5aM 11fb0N 13440M 13441N 13447M 13460N 1611eM 16130N 16af0M
  16af5N 16b30M 16b37N 16f4fM 16f50N 16f51M 16f93N 16fe4M 16ff2N 1bc9dM 1bc9fN 1cf00M 1cf50N
  1d165M 1d16aN 1d16dM 1d183N 1d185M 1d18cN 1d1aaM 1d1aeN 1d242M 1d245N 1da00M 1da37N 1da3bM
  1da6dN 1da75M 1da76N 1da84M 1da85N 1da9bM 1df00N 1e000M 1e100N 1e130M 1e137N 1e2aeM 1e2c0N
  1e2ecM 1e2f0N 1e4ecM 1e4f0N 1e5eeM 1e5f0N 1e6e3M 1e6e4N 1e6e6M 1e6e7N 1e6eeM 1e6f0N 1e6f5M
  1e6feN 1e8d0M 1e922N 1e944M 1e94bN"

/-- How letters join: `D` on both sides, `L` with the next one, `R` with the one
before, `T` not at all but without parting their neighbours, `U` not at all. -/
def joining : Property := .ofText "
  a1U 300T 371U 483T 48bU 591T 5beU 5bfT 5c0U 5c1T 5c3U 5c4T 5c6U 5c7T 5d0U 610T 61bU 620D 621U
  622R 626D 627R 628D 629R 62aD 62fR 633D 640U 641D 648R 649D 64bT 660U 66eD 670T 671R 674U 679D
  688R 69aD 6c0R 6c1D 6c3R 6ccD 6cdR 6ceD 6cfR 6d0D 6d2R 6d4U 6d5R 6d6T 6deU 6dfT 6e5U 6e7T 6e9U
  6eaT 6eeR 6f0U 6faD 6fdU 6ffD 700U 710R 711T 712D 715R 71aD 71eR 71fD 728R 729D 72aR 72bD 72cR
  72dD 72fR 730T 74dR 74eD 759R 75cD 76bR 76dD 771R 772D 773R 775D 778R 77aD 780U 7a6T 7b1U 7caD
  7ebT 7f4U 7fdT 7feU 816T 81aU 81bT 824U 825T 828U 829T 830U 840R 841D 846R 848D 849R 84aD 854R
  855D 856R 859T 85eU 860D 861U 862D 866U 867R 868D 869R 883U 886D 887U 889D 88eR 88fD 897T 8a0D
  8aaR 8adU 8aeR 8afD 8b1R 8b3D 8b9R 8baD 8c9U 8caT 903U 93aT 93bU 93cT 93dU 941T 949U 94dT 94eU
  951T 960U 962T 964U 981T 982U 9bcT 9bdU 9c1T 9c7U 9cdT 9ceU 9e2T 9e6U 9feT a03U a3cT a3eU a41T
  a5cU a70T a72U a75T a76U a81T a83U abcT abdU ac1T ac9U acdT ad0U ae2T ae6U afaT b02U b3cT b3dU
  b3fT b40U b41T b47U b4dT b57U b62T b66U b82T b83U bc0T bc1U bcdT bd0U c00T c01U c04T c05U c3cT
  c3dU c3eT c41U c46T c58U c62T c66U c81T c82U cbcT cbdU cbfT cc0U cc6T cc7U cccT cd5U ce2T ce6U
  d00T d02U d3bT d3dU d41T d46U d4dT d4eU d62T d66U d81T d82U dcaT dcfU dd2T dd8U e31T e32U e34T
  e3fU e47T e4fU eb1T eb2U eb4T ebdU ec8T ed0U f18T f1aU f35T f36U f37T f38U f39T f3aU f71T f7fU
  f80T f85U f86T f88U f8dT fbeU fc6T fc7U 102dT 1031U 1032T 1038U 1039T 103bU 103dT 103fU 1058T
  105aU 105eT 1061U 1071T 1075U 1082T 1083U 1085T 1087U 108dT 108eU 109dT 109eU 135dT 1360U 1712T
  1715U 1732T 1734U 1752T 1760U 1772T 1780U 17b7T 17beU 17c6T 17c7U 17c9T 17d4U 17ddT 17e0U 1807D
  1808U 1820D 1880U 1885T 1887D 18a9T 18aaD 18b0U 1920T 1923U 1927T 1929U 1932T 1933U 1939T 1940U
  1a17T 1a19U 1a1bT 1a1eU 1a56T 1a57U 1a58T 1a61U 1a62T 1a63U 1a65T 1a6dU 1a73T 1a80U 1ab0T 1b04U
  1b34T 1b35U 1b36T 1b3bU 1b3cT 1b3dU 1b42T 1b43U 1b6bT 1b74U 1b80T 1b82U 1ba2T 1ba6U 1ba8T 1baaU
  1babT 1baeU 1be6T 1be7U 1be8T 1beaU 1bedT 1beeU 1befT 1bf2U 1c2cT 1c34U 1c36T 1c3bU 1cd0T 1cd3U
  1cd4T 1ce1U 1ce2T 1ce9U 1cedT 1ceeU 1cf4T 1cf5U 1cf8T 1cfaU 1dc0T 1e01U 20d0T 2104U 2cefT 2cf3U
  2d7fT 2d80U 2de0T 2e00U 302aT 302eU 3099T 309dU a66fT a673U a674T a67eU a69eT a6a0U a6f0T a6f2U
  a802T a803U a806T a807U a80bT a80cU a825T a827U a82cT a830U a840D a872L a873U a8c4T a8ceU a8e0T
  a8f2U a8ffT a900U a926T a92eU a947T a952U a980T a983U a9b3T a9b4U a9b6T a9baU a9bcT a9beU a9e5T
  a9e6U aa29T aa2fU aa31T aa33U aa35T aa40U aa43T aa44U aa4cT aa4dU aa7cT aa7dU aab0T aab1U aab2T
  aab5U aab7T aab9U aabeT aac0U aac1T aac2U aaecT aaeeU aaf6T ab01U abe5T abe6U abe8T abe9U abedT
  abf0U fb1eT fbb2U fe20T fe45U 101fdT 10280U 102e0T 102e1U 10376T 10380U 10a01T 10a10U 10a38T
  10a40U 10ac0D 10ac5R 10ac6U 10ac7R 10ac8U 10ac9R 10acbU 10acdL 10aceR 10ad3D 10ad7L 10ad8D
  10addR 10adeD 10ae1R 10ae2U 10ae4R 10ae5T 10aebD 10aefR 10af0U 10b80D 10b81R 10b82D 10b83R
  10b86D 10b89R 10b8aD 10b8cR 10b8dD 10b8eR 10b90D 10b91R 10b99U 10ba9R 10badD 10bafU 10d00L
  10d01D 10d22R 10d23D 10d24T 10d30U 10d69T 10d6eU 10eabT 10eadU 10ec2R 10ec3D 10ec5U 10ec6D
  10ed0U 10efaT 10f00U 10f30D 10f33R 10f34D 10f45U 10f46T 10f51D 10f54R 10f55U 10f70D 10f74R
  10f76D 10f82T 10f86U 10fb0D 10fb1U 10fb2D 10fb4R 10fb7U 10fb8D 10fb9R 10fbbD 10fbdR 10fbeD
  10fc0U 10fc1D 10fc2R 10fc4D 10fc5U 10fc9R 10fcaD 10fcbL 10fe0U 11001T 11002U 11038T 11047U
  11070T 11071U 11073T 11075U 1107fT 11082U 110b3T 110b7U 110b9T 110bbU 110c2T 110d0U 11100T
  11103U 11127T 1112cU 1112dT 11136U 11173T 11174U 11180T 11182U 111b6T 111bfU 111c9T 111cdU
  111cfT 111d0U 1122fT 11232U 11234T 11235U 11236T 11238U 1123eT 1123fU 11241T 11280U 112dfT
  112e0U 112e3T 112f0U 11300T 11302U 1133bT 1133dU 11340T 11341U 11366T 11380U 113bbT 113c2U
  113ceT 113cfU 113d0T 113d1U 113d2T 113d3U 113e1T 11400U 11438T 11440U 11442T 11445U 11446T
  11447U 1145eT 1145fU 114b3T 114b9U 114baT 114bbU 114bfT 114c1U 114c2T 114c4U 115b2T 115b8U
  115bcT 115beU 115bfT 115c1U 115dcT 11600U 11633T 1163bU 1163dT 1163eU 1163fT 11641U 116abT
  116acU 116adT 116aeU 116b0T 116b6U 116b7T 116b8U 1171dT 1171eU 1171fT 11720U 11722T 11726U
  11727T 11730U 1182fT 11838U 11839T 1183bU 1193bT 1193dU 1193eT 1193fU 11943T 11944U 119d4T
  119dcU 119e0T 119e1U 11a01T 11a0bU 11a33T 11a39U 11a3bT 11a3fU 11a47T 11a50U 11a51T 11a57U
  11a59T 11a5cU 11a8aT 11a97U 11a98T 11a9aU 11b60T 11b61U 11b62T 11b65U 11b66T 11b67U 11c30T
  11c3eU 11c3fT 11c40U 11c92T 11ca9U 11caaT 11cb1U 11cb2T 11cb4U 11cb5T 11d00U 11d31T 11d46U
  11d47T 11d50U 11d90T 11d93U 11d95T 11d96U 11d97T 11d98U 11ef3T 11ef5U 11f00T 11f02U 11f36T
  11f3eU 11f40T 11f41U 11f42T 11f43U 11f5aT 11fb0U 13440T 13441U 13447T 13460U 1611eT 1612aU
  1612dT 16130U 16af0T 16af5U 16b30T 16b37U 16f4fT 16f50U 16f8fT 16f93U 16fe4T 16ff0U 1bc9dT
  1bc9fU 1cf00T 1cf50U 1d167T 1d16aU 1d17bT 1d183U 1d185T 1d18cU 1d1aaT 1d1aeU 1d242T 1d245U
  1da00T 1da37U 1da3bT 1da6dU 1da75T 1da76U 1da84T 1da85U 1da9bT 1df00U 1e000T 1e100U 1e130T
  1e137U 1e2aeT 1e2c0U 1e2ecT 1e2f0U 1e4ecT 1e4f0U 1e5eeT 1e5f0U 1e6e3T 1e6e4U 1e6e6T 1e6e7U
  1e6eeT 1e6f0U 1e6f5T 1e6feU 1e8d0T 1e922D 1e944T 1e950U"

/-- Whether the character puts something on the one before it. -/
def isMark (c : Char) : Bool := marks.holds 'M' c

/-- The joiner that parts and the one that binds. -/
def parter : Char := '\u200c'
def binder : Char := '\u200d'

/-- The class of the marks that silence a vowel. -/
def silencer : Nat := 9

/-- Whether the first character of a text that does not let its neighbours
through joins on both sides or on the given one. -/
def joinsOn (side : Char) (text : Text) : Bool :=
  ((text.dropWhile (joining.holds 'T' ·)).head?.map fun c =>
    joining.holds 'D' c || joining.holds side c).getD false

/-- Whether a joiner may stand between the characters before it, last one first,
and those behind it. -/
def mayJoin (joiner : Char) (before after : Text) : Bool :=
  (before.head?.map markClass == some silencer) ||
    (joiner == parter && joinsOn 'L' before && joinsOn 'R' after)

/-- Whether all joiners of a text may stand where they are; the first argument
is what is before it, last character first. -/
def joinsWell : Text → Text → Bool
  | _, [] => true
  | before, c :: after =>
    (!(c == parter || c == binder) || mayJoin c before after) && joinsWell (c :: before) after

/-- How many characters a label with characters outside ASCII may have. -/
def maxLabel : Nat := 1000

/-- Whether a text of characters that names may have is a label. -/
def isLabel (text : Text) : Bool :=
  !((text.head?.map isMark).getD false) && joinsWell [] text &&
    (Text.isAscii text || text.length ≤ maxLabel)

end RuleGateway.Domain
