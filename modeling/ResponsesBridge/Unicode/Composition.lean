/-!
# Composed characters

A composed character means the same as a character and a mark behind it. Syllables of Hangul are
composed of their letters by arithmetic, all other composed characters are listed.
-/

set_option autoImplicit false

namespace ResponsesBridge.Unicode

/-- Characters that are composed with a mark: behind the mark, each character is followed by the
composed one. -/
def composedWith : List (Nat × String) :=
  [(0x300, "AÀEÈIÌNǸOÒUÙWẀYỲaàeèiìnǹoòuùwẁyỳ¨῭ÂẦÊỀÔỒÜǛâầêềôồüǜĂẰăằĒḔēḕŌṐōṑƠỜơờƯỪưừΑᾺ"),
    (0x300, "ΕῈΗῊΙῚΟῸΥῪΩῺαὰεὲηὴιὶοὸυὺωὼϊῒϋῢЕЀИЍеѐиѝἀἂἁἃἈἊἉἋἐἒἑἓἘἚἙἛἠἢἡἣἨἪἩἫἰἲἱἳἸἺἹἻὀὂ"),
    (0x300, "ὁὃὈὊὉὋὐὒὑὓὙὛὠὢὡὣὨὪὩὫ᾿῍῾῝"),
    (0x301, "AÁCĆEÉGǴIÍKḰLĹMḾNŃOÓPṔRŔSŚUÚWẂYÝZŹaácćeégǵiíkḱlĺmḿnńoópṕrŕsśuúwẃyýzź¨΅ÂẤ"),
    (0x301, "ÅǺÆǼÇḈÊẾÏḮÔỐÕṌØǾÜǗâấåǻæǽçḉêếïḯôốõṍøǿüǘĂẮăắĒḖēḗŌṒōṓŨṸũṹƠỚơớƯỨưứΑΆΕΈΗΉΙΊΟΌ"),
    (0x301, "ΥΎΩΏαάεέηήιίοόυύωώϊΐϋΰϒϓГЃКЌгѓкќἀἄἁἅἈἌἉἍἐἔἑἕἘἜἙἝἠἤἡἥἨἬἩἭἰἴἱἵἸἼἹἽὀὄὁὅὈὌὉὍ"),
    (0x301, "ὐὔὑὕὙὝὠὤὡὥὨὬὩὭ᾿῎῾῞"),
    (0x302, "AÂCĈEÊGĜHĤIÎJĴOÔSŜUÛWŴYŶZẐaâcĉeêgĝhĥiîjĵoôsŝuûwŵyŷzẑẠẬạậẸỆẹệỌỘọộ"),
    (0x303, "AÃEẼIĨNÑOÕUŨVṼYỸaãeẽiĩnñoõuũvṽyỹÂẪÊỄÔỖâẫêễôỗĂẴăẵƠỠơỡƯỮưữ"),
    (0x304, "AĀEĒGḠIĪOŌUŪYȲaāeēgḡiīoōuūyȳÄǞÆǢÕȬÖȪÜǕäǟæǣõȭöȫüǖǪǬǫǭȦǠȧǡȮȰȯȱΑᾹΙῙΥῩαᾱιῑυῡ"),
    (0x304, "ИӢУӮиӣуӯḶḸḷḹṚṜṛṝ"),
    (0x306, "AĂEĔGĞIĬOŎUŬaăeĕgğiĭoŏuŭȨḜȩḝΑᾸΙῘΥῨαᾰιῐυῠАӐЕӖЖӁИЙУЎаӑеӗжӂийуўẠẶạặ"),
    (0x307, "AȦBḂCĊDḊEĖFḞGĠHḢIİMṀNṄOȮPṖRṘSṠTṪWẆXẊYẎZŻaȧbḃcċdḋeėfḟgġhḣmṁnṅoȯpṗrṙsṡtṫwẇ"),
    (0x307, "xẋyẏzżŚṤśṥŠṦšṧſẛṢṨṣṩ𐗒𐗉𐗚𐗤"),
    (0x308, "AÄEËHḦIÏOÖUÜWẄXẌYŸaäeëhḧiïoötẗuüwẅxẍyÿÕṎõṏŪṺūṻΙΪΥΫιϊυϋϒϔІЇАӒЕЁЖӜЗӞИӤОӦУӰ"),
    (0x308, "ЧӴЫӸЭӬаӓеёжӝзӟиӥоӧуӱчӵыӹэӭіїӘӚәӛӨӪөӫ"),
    (0x309, "AẢEẺIỈOỎUỦYỶaảeẻiỉoỏuủyỷÂẨÊỂÔỔâẩêểôổĂẲăẳƠỞơởƯỬưử"),
    (0x30A, "AÅUŮaåuůwẘyẙ"),
    (0x30B, "OŐUŰoőuűУӲуӳ"),
    (0x30C, "AǍCČDĎEĚGǦHȞIǏKǨLĽNŇOǑRŘSŠTŤUǓZŽaǎcčdďeěgǧhȟiǐjǰkǩlľnňoǒrřsštťuǔzžÜǙüǚƷǮ"),
    (0x30C, "ʒǯ"),
    (0x30F, "AȀEȄIȈOȌRȐUȔaȁeȅiȉoȍrȑuȕѴѶѵѷ"),
    (0x311, "AȂEȆIȊOȎRȒUȖaȃeȇiȋoȏrȓuȗ"),
    (0x313, "ΑἈΕἘΗἨΙἸΟὈΩὨαἀεἐηἠιἰοὀρῤυὐωὠ"),
    (0x314, "ΑἉΕἙΗἩΙἹΟὉΡῬΥὙΩὩαἁεἑηἡιἱοὁρῥυὑωὡ"),
    (0x31B, "OƠUƯoơuư"),
    (0x323, "AẠBḄDḌEẸHḤIỊKḲLḶMṂNṆOỌRṚSṢTṬUỤVṾWẈYỴZẒaạbḅdḍeẹhḥiịkḳlḷmṃnṇoọrṛsṣtṭuụvṿwẉ"),
    (0x323, "yỵzẓƠỢơợƯỰưự"),
    (0x324, "UṲuṳ"),
    (0x325, "AḀaḁ"),
    (0x326, "SȘTȚsștț"),
    (0x327, "CÇDḐEȨGĢHḨKĶLĻNŅRŖSŞTŢcçdḑeȩgģhḩkķlļnņrŗsştţ"),
    (0x328, "AĄEĘIĮOǪUŲaąeęiįoǫuų"),
    (0x32D, "DḒEḘLḼNṊTṰUṶdḓeḙlḽnṋtṱuṷ"),
    (0x32E, "HḪhḫ"),
    (0x330, "EḚIḬUṴeḛiḭuṵ"),
    (0x331, "BḆDḎKḴLḺNṈRṞTṮZẔbḇdḏhẖkḵlḻnṉrṟtṯzẕ"),
    (0x338, "<≮=≠>≯←↚→↛↔↮⇐⇍⇒⇏⇔⇎∃∄∈∉∋∌∣∤∥∦∼≁≃≄≅≇≈≉≍≭≡≢≤≰≥≱≲≴≳≵≶≸≷≹≺⊀≻⊁≼⋠≽⋡⊂⊄⊃⊅⊆⊈⊇⊉⊑⋢⊒⋣"),
    (0x338, "⊢⊬⊨⊭⊩⊮⊫⊯⊲⋪⊳⋫⊴⋬⊵⋭"),
    (0x342, "¨῁αᾶηῆιῖυῦωῶϊῗϋῧἀἆἁἇἈἎἉἏἠἦἡἧἨἮἩἯἰἶἱἷἸἾἹἿὐὖὑὗὙὟὠὦὡὧὨὮὩὯ᾿῏῾῟"),
    (0x345, "ΑᾼΗῌΩῼάᾴήῄαᾳηῃωῳώῴἀᾀἁᾁἂᾂἃᾃἄᾄἅᾅἆᾆἇᾇἈᾈἉᾉἊᾊἋᾋἌᾌἍᾍἎᾎἏᾏἠᾐἡᾑἢᾒἣᾓἤᾔἥᾕἦᾖἧᾗἨᾘἩᾙἪᾚ"),
    (0x345, "ἫᾛἬᾜἭᾝἮᾞἯᾟὠᾠὡᾡὢᾢὣᾣὤᾤὥᾥὦᾦὧᾧὨᾨὩᾩὪᾪὫᾫὬᾬὭᾭὮᾮὯᾯὰᾲὴῂὼῲᾶᾷῆῇῶῷ"),
    (0x653, "اآ"),
    (0x654, "اأوؤيئہۂےۓەۀ"),
    (0x655, "اإ"),
    (0x93C, "नऩरऱळऴ"),
    (0xBD7, "ஒஔ"),
    (0x102E, "ဥဦ"),
    (0x1B35, "ᬅᬆᬇᬈᬉᬊᬋᬌᬍᬎᬑᬒ"),
    (0x3099, "うゔかがきぎくぐけげこごさざしじすずせぜそぞただちぢつづてでとどはばひびふぶへべほぼゝゞウヴカガキギクグケゲコゴサザシジスズセゼソゾタダチヂツヅ"),
    (0x3099, "テデトドハバヒビフブヘベホボワヷヰヸヱヹヲヺヽヾ"),
    (0x309A, "はぱひぴふぷへぺほぽハパヒピフプヘペホポ"),
    (0x110BA, "𑂙𑂚𑂛𑂜𑂥𑂫"),
    (0x113BB, "𑎄𑎅"),
    (0x113C2, "𑎋𑎎"),
    (0x113C9, "𑎂𑎃𑎐𑎑"),
    (0x16D67, "𖵣𖵪𖵨𖵩𖵪")]

/-- Marks that are composed of two marks: the first one, the second one and the composed one. -/
def composedMarks : List (Nat × Nat × Nat) :=
  [(0x9C7, 0x9BE, 0x9CB), (0x9C7, 0x9D7, 0x9CC), (0xB47, 0xB56, 0xB48), (0xB47, 0xB3E, 0xB4B),
    (0xB47, 0xB57, 0xB4C), (0xBC6, 0xBBE, 0xBCA), (0xBC7, 0xBBE, 0xBCB), (0xBC6, 0xBD7, 0xBCC),
    (0xC46, 0xC56, 0xC48), (0xCBF, 0xCD5, 0xCC0), (0xCC6, 0xCD5, 0xCC7), (0xCC6, 0xCD6, 0xCC8),
    (0xCC6, 0xCC2, 0xCCA), (0xCCA, 0xCD5, 0xCCB), (0xD46, 0xD3E, 0xD4A), (0xD47, 0xD3E, 0xD4B),
    (0xD46, 0xD57, 0xD4C), (0xDD9, 0xDCA, 0xDDA), (0xDD9, 0xDCF, 0xDDC), (0xDDC, 0xDCA, 0xDDD),
    (0xDD9, 0xDDF, 0xDDE), (0x1B3A, 0x1B35, 0x1B3B), (0x1B3C, 0x1B35, 0x1B3D),
    (0x1B3E, 0x1B35, 0x1B40), (0x1B3F, 0x1B35, 0x1B41), (0x1B42, 0x1B35, 0x1B43),
    (0x11131, 0x11127, 0x1112E), (0x11132, 0x11127, 0x1112F), (0x11347, 0x1133E, 0x1134B),
    (0x11347, 0x11357, 0x1134C), (0x113C2, 0x113C2, 0x113C5), (0x113C2, 0x113B8, 0x113C7),
    (0x113C2, 0x113C9, 0x113C8), (0x114B9, 0x114BA, 0x114BB), (0x114B9, 0x114B0, 0x114BC),
    (0x114B9, 0x114BD, 0x114BE), (0x115B8, 0x115AF, 0x115BA), (0x115B9, 0x115AF, 0x115BB),
    (0x11935, 0x11930, 0x11938), (0x1611E, 0x1611E, 0x16121), (0x1611E, 0x16129, 0x16122),
    (0x1611E, 0x1611F, 0x16123), (0x16129, 0x1611F, 0x16124), (0x1611E, 0x16120, 0x16125),
    (0x16121, 0x1611F, 0x16126), (0x16122, 0x1611F, 0x16127), (0x16121, 0x16120, 0x16128)]

/-- The characters of a text by twos. -/
def byTwos : List Char → List (Char × Char)
  | first :: second :: rest => (first, second) :: byTwos rest
  | _ => []

/-- A composed character and its two parts. -/
structure Composition where
  first : Char
  mark : Char
  whole : Char
deriving DecidableEq, Repr

/-- All composed characters but the syllables of Hangul. -/
def compositions : List Composition :=
  (composedWith.flatMap fun entry =>
    (byTwos entry.2.toList).map fun pair => ⟨pair.1, Char.ofNat entry.1, pair.2⟩) ++
  composedMarks.map fun entry =>
    ⟨Char.ofNat entry.1, Char.ofNat entry.2.1, Char.ofNat entry.2.2⟩

/-! ## Hangul -/

/-- The code point of the first syllable. -/
def firstSyllable : Nat := 0xAC00

/-- The code point of the first leading letter. -/
def firstLeading : Nat := 0x1100

/-- The code point of the first vowel. -/
def firstVowel : Nat := 0x1161

/-- The code point before the first trailing letter, which counts as the absence of one. -/
def noTrailing : Nat := 0x11A7

/-- How many leading letters there are. -/
def leadingCount : Nat := 19

/-- How many vowels there are. -/
def vowelCount : Nat := 21

/-- How many trailing letters there are, the absence of one included. -/
def trailingCount : Nat := 28

/-- How many syllables there are. -/
def syllableCount : Nat := leadingCount * vowelCount * trailingCount

/-- Whether a code point is one of the `count` ones from `first` on. -/
def isAmong (first count point : Nat) : Bool :=
  decide (first ≤ point ∧ point < first + count)

/-- The letters of a syllable. -/
def syllableLetters? (character : Char) : Option (List Char) :=
  let point := character.toNat
  if isAmong firstSyllable syllableCount point then
    let place := point - firstSyllable
    let pair := place / trailingCount
    let letters := [Char.ofNat (firstLeading + pair / vowelCount),
      Char.ofNat (firstVowel + pair % vowelCount)]
    if place % trailingCount = 0 then some letters
    else some (letters ++ [Char.ofNat (noTrailing + place % trailingCount)])
  else none

/-- The syllable of a leading letter and a vowel, or of a syllable without a trailing letter and
such a letter. -/
def syllable? (first second : Char) : Option Char :=
  let left := first.toNat
  let right := second.toNat
  if isAmong firstLeading leadingCount left ∧ isAmong firstVowel vowelCount right then
    let pair := (left - firstLeading) * vowelCount + (right - firstVowel)
    some (Char.ofNat (firstSyllable + pair * trailingCount))
  else if isAmong firstSyllable syllableCount left ∧
      (left - firstSyllable) % trailingCount = 0 ∧
      isAmong (noTrailing + 1) (trailingCount - 1) right then
    some (Char.ofNat (left + (right - noTrailing)))
  else none

/-- The character that two characters are composed to. -/
def composed? (first second : Char) : Option Char :=
  match syllable? first second with
  | some syllable => some syllable
  | none =>
    (compositions.find? fun composition =>
      composition.first == first && composition.mark == second).map Composition.whole

end ResponsesBridge.Unicode
