import ResponsesBridge.Text.Split
import ResponsesBridge.Unicode.Composition

/-!
# What characters stand for

Many characters are there for the sake of other encodings: wide and narrow forms, ligatures,
letters in circles, letters of special fonts, forms of letters at the ends of words. Each of them
stands for one or more ordinary characters. `decomposition` gives these, and the parts of a
composed character.
-/

set_option autoImplicit false

namespace ResponsesBridge.Unicode

/-- Runs of characters that stand for one character each: the first and the last code point, and
what the first one stands for. -/
def equivalentRuns : List (Nat × Nat × Nat) :=
  [(0x1D33, 0x1D3A, 0x47), (0x2074, 0x2079, 0x34), (0x2080, 0x2089, 0x30), (0x2460, 0x2468, 0x31),
    (0x24B6, 0x24CF, 0x41), (0x24D0, 0x24E9, 0x61), (0x313A, 0x313F, 0x11B0),
    (0x3145, 0x314E, 0x1109), (0x314F, 0x3163, 0x1161), (0x3178, 0x317C, 0x112B),
    (0x3269, 0x326D, 0x110E), (0x32E4, 0x32E9, 0x30CA), (0x32EE, 0x32F2, 0x30DE),
    (0x32F5, 0x32FA, 0x30E8), (0xFF01, 0xFF5E, 0x21), (0xFF85, 0xFF8A, 0x30CA),
    (0xFF8F, 0xFF93, 0x30DE), (0xFF96, 0xFF9B, 0x30E8), (0xFFAA, 0xFFAF, 0x11B0),
    (0xFFB5, 0xFFBE, 0x1109), (0xFFC2, 0xFFC7, 0x1161), (0xFFCA, 0xFFCF, 0x1167),
    (0xFFD2, 0xFFD7, 0x116D), (0x1CCD6, 0x1CCEF, 0x41), (0x1CCF0, 0x1CCF9, 0x30),
    (0x1D400, 0x1D419, 0x41), (0x1D41A, 0x1D433, 0x61), (0x1D434, 0x1D44D, 0x41),
    (0x1D44E, 0x1D454, 0x61), (0x1D456, 0x1D467, 0x69), (0x1D468, 0x1D481, 0x41),
    (0x1D482, 0x1D49B, 0x61), (0x1D4AE, 0x1D4B5, 0x53), (0x1D4BD, 0x1D4C3, 0x68),
    (0x1D4C5, 0x1D4CF, 0x70), (0x1D4D0, 0x1D4E9, 0x41), (0x1D4EA, 0x1D503, 0x61),
    (0x1D50D, 0x1D514, 0x4A), (0x1D516, 0x1D51C, 0x53), (0x1D51E, 0x1D537, 0x61),
    (0x1D540, 0x1D544, 0x49), (0x1D54A, 0x1D550, 0x53), (0x1D552, 0x1D56B, 0x61),
    (0x1D56C, 0x1D585, 0x41), (0x1D586, 0x1D59F, 0x61), (0x1D5A0, 0x1D5B9, 0x41),
    (0x1D5BA, 0x1D5D3, 0x61), (0x1D5D4, 0x1D5ED, 0x41), (0x1D5EE, 0x1D607, 0x61),
    (0x1D608, 0x1D621, 0x41), (0x1D622, 0x1D63B, 0x61), (0x1D63C, 0x1D655, 0x41),
    (0x1D656, 0x1D66F, 0x61), (0x1D670, 0x1D689, 0x41), (0x1D68A, 0x1D6A3, 0x61),
    (0x1D6A8, 0x1D6B8, 0x391), (0x1D6BA, 0x1D6C0, 0x3A3), (0x1D6C2, 0x1D6DA, 0x3B1),
    (0x1D6E2, 0x1D6F2, 0x391), (0x1D6F4, 0x1D6FA, 0x3A3), (0x1D6FC, 0x1D714, 0x3B1),
    (0x1D71C, 0x1D72C, 0x391), (0x1D72E, 0x1D734, 0x3A3), (0x1D736, 0x1D74E, 0x3B1),
    (0x1D756, 0x1D766, 0x391), (0x1D768, 0x1D76E, 0x3A3), (0x1D770, 0x1D788, 0x3B1),
    (0x1D790, 0x1D7A0, 0x391), (0x1D7A2, 0x1D7A8, 0x3A3), (0x1D7AA, 0x1D7C2, 0x3B1),
    (0x1D7CE, 0x1D7D7, 0x30), (0x1D7D8, 0x1D7E1, 0x30), (0x1D7E2, 0x1D7EB, 0x30),
    (0x1D7EC, 0x1D7F5, 0x30), (0x1D7F6, 0x1D7FF, 0x30), (0x1E030, 0x1E038, 0x430),
    (0x1E03C, 0x1E046, 0x43E), (0x1E051, 0x1E059, 0x430), (0x1E05F, 0x1E064, 0x443),
    (0x1F130, 0x1F149, 0x41), (0x1FBF0, 0x1FBF9, 0x30)]

/-- What characters stand for, from a code point on, with bars between; nothing between two bars
means that a character stands for itself. -/
def equivalentTexts : List (Nat × String) :=
  [(0xA0, " "), (0xA8, " ̈||a"), (0xAF, " ̄|||2|3| ́|μ||| ̧|1|o||1⁄4|1⁄2|3⁄4"), (0x132, "IJ|ij"),
    (0x13F, "L·|l·"), (0x149, "ʼn"), (0x17F, "s"), (0x1C4, "DŽ|Dž|dž|LJ|Lj|lj|NJ|Nj|nj"),
    (0x1F1, "DZ|Dz|dz"), (0x2B0, "h|ɦ|j|r|ɹ|ɻ|ʁ|w|y"), (0x2D8, " ̆| ̇| ̊| ̨| ̃| ̋|||ɣ|l|s|x|ʕ"),
    (0x374, "ʹ"), (0x37A, " ͅ"), (0x37E, ";"), (0x384, " ́| ̈́||·"), (0x3D0, "β|θ|Υ|Ύ|Ϋ|φ|π"),
    (0x3F0, "κ|ρ|ς||Θ|ε"), (0x3F9, "Σ"), (0x587, "եւ"), (0x675, "اٴ|وٴ|ۇٴ|يٴ"),
    (0x958, "क़|ख़|ग़|ज़|ड़|ढ़|फ़|य़"), (0x9DC, "ড়|ঢ়||য়"), (0xA33, "ਲ਼|||ਸ਼"),
    (0xA59, "ਖ਼|ਗ਼|ਜ਼|||ਫ਼"), (0xB5C, "ଡ଼|ଢ଼"), (0xEDC, "ຫນ|ຫມ"), (0xF0C, "་"), (0xF43, "གྷ"),
    (0xF4D, "ཌྷ"), (0xF52, "དྷ"), (0xF57, "བྷ"), (0xF5C, "ཛྷ"), (0xF69, "ཀྵ"), (0x10FC, "ნ"),
    (0x1D2C, "A|Æ|B||D|E|Ǝ"),
    (0x1D3C, "O|Ȣ|P|R|T|U|W|a|ɐ|ɑ|ᴂ|b|d|e|ə|ɛ|ɜ|g||k|m|ŋ|o|ɔ|ᴖ|ᴗ|p|t|u|ᴝ|ɯ|v|ᴥ|β|γ|δ|φ|χ"),
    (0x1D62, "i|r|u|v|β|γ|ρ|φ|χ"), (0x1D78, "н"),
    (0x1D9B, "ɒ|c|ɕ|ð|ɜ|f|ɟ|ɡ|ɥ|ɨ|ɩ|ɪ|ᵻ|ʝ|ɭ|ᶅ|ʟ|ɱ|ɰ|ɲ|ɳ|ɴ|ɵ|ɸ|ʂ|ʃ|ƫ|ʉ|ʊ|ᴜ|ʋ|ʌ|z|ʐ|ʑ|ʒ|θ"),
    (0x1E9A, "aʾ|ṡ"), (0x1F71, "ά||έ||ή||ί||ό||ύ||ώ"), (0x1FBB, "Ά|| ̓|ι| ̓| ͂| ̈͂"),
    (0x1FC9, "Έ||Ή|| ̓̀| ̓́| ̓͂"), (0x1FD3, "ΐ"), (0x1FDB, "Ί|| ̔̀| ̔́| ̔͂"), (0x1FE3, "ΰ"),
    (0x1FEB, "Ύ|| ̈̀| ̈́|\x60"), (0x1FF9, "Ό||Ώ|| ́| ̔|| | | | | | | | | | | "), (0x2011, "‐"),
    (0x2017, " ̳"), (0x2024, ".|..|..."), (0x202F, " "), (0x2033, "′′|′′′||‵‵|‵‵‵"),
    (0x203C, "!!|| ̅"), (0x2047, "??|?!|!?"), (0x2057, "′′′′"), (0x205F, " "), (0x2070, "0|i"),
    (0x207A, "+|−|=|(|)|n"), (0x208A, "+|−|=|(|)||a|e|o|x|ə|h|k|l|m|n|p|s|t"), (0x20A8, "Rs"),
    (0x2100, "a/c|a/s|C|°C||c/o|c/u|Ɛ||°F|g|H|H|H|h|ħ|I|I|L|l||N|No|||P|Q|R|R|R|||SM|TEL"),
    (0x2122, "TM||Z||Ω||Z||K|Å|B|C||e|E|F||M|o|א|ב|ג|ד|i||FAX|π|γ|Γ|Π|∑"), (0x2145, "D|d|e|i|j"),
    (0x2150, "1⁄7|1⁄9|1⁄10|1⁄3|2⁄3|1⁄5|2⁄5|3⁄5|4⁄5|1⁄6|5⁄6|1⁄8|3⁄8|5⁄8|7⁄8|1⁄|I|II|III"),
    (0x2163, "IV|V|VI|VII|VIII|IX|X|XI|XII|L|C|D|M|i|ii|iii|iv|v|vi|vii|viii|ix|x|xi|xii"),
    (0x217C, "l|c|d|m"), (0x2189, "0⁄3"), (0x222C, "∫∫|∫∫∫||∮∮|∮∮∮"), (0x2329, "〈|〉"),
    (0x2469, "10|11|12|13|14|15|16|17|18|19|20|(1)|(2)|(3)|(4)|(5)|(6)|(7)|(8)|(9)|(10)"),
    (0x247E, "(11)|(12)|(13)|(14)|(15)|(16)|(17)|(18)|(19)|(20)|1.|2.|3.|4.|5.|6.|7.|8."),
    (0x2490, "9.|10.|11.|12.|13.|14.|15.|16.|17.|18.|19.|20.|(a)|(b)|(c)|(d)|(e)|(f)|(g)"),
    (0x24A3, "(h)|(i)|(j)|(k)|(l)|(m)|(n)|(o)|(p)|(q)|(r)|(s)|(t)|(u)|(v)|(w)|(x)|(y)"),
    (0x24B5, "(z)"), (0x24EA, "0"), (0x2A0C, "∫∫∫∫"), (0x2A74, "::=|==|==="), (0x2ADC, "⫝̸"),
    (0x2C7C, "j|V"), (0x2D6F, "ⵡ"), (0x2E9F, "母"), (0x2EF3, "龟"),
    (0x2F00, "一|丨|丶|丿|乙|亅|二|亠|人|儿|入|八|冂|冖|冫|几|凵|刀|力|勹|匕|匚|匸|十|卜|卩|厂|厶|又|口|囗|土|士|夂|夊|夕|大"),
    (0x2F25, "女|子|宀|寸|小|尢|尸|屮|山|巛|工|己|巾|干|幺|广|廴|廾|弋|弓|彐|彡|彳|心|戈|戶|手|支|攴|文|斗|斤|方|无|日|曰|月"),
    (0x2F4A, "木|欠|止|歹|殳|毋|比|毛|氏|气|水|火|爪|父|爻|爿|片|牙|牛|犬|玄|玉|瓜|瓦|甘|生|用|田|疋|疒|癶|白|皮|皿|目|矛|矢"),
    (0x2F6F, "石|示|禸|禾|穴|立|竹|米|糸|缶|网|羊|羽|老|而|耒|耳|聿|肉|臣|自|至|臼|舌|舛|舟|艮|色|艸|虍|虫|血|行|衣|襾|見|角"),
    (0x2F94, "言|谷|豆|豕|豸|貝|赤|走|足|身|車|辛|辰|辵|邑|酉|釆|里|金|長|門|阜|隶|隹|雨|靑|非|面|革|韋|韭|音|頁|風|飛|食|首"),
    (0x2FB9, "香|馬|骨|高|髟|鬥|鬯|鬲|鬼|魚|鳥|鹵|鹿|麥|麻|黃|黍|黑|黹|黽|鼎|鼓|鼠|鼻|齊|齒|龍|龜|龠"), (0x3000, " "),
    (0x3036, "〒||十|卄|卅"), (0x309B, " ゙| ゚|||より"), (0x30FF, "コト"), (0x3131, "ᄀ|ᄁ|ᆪ|ᄂ|ᆬ|ᆭ|ᄃ|ᄄ|ᄅ"),
    (0x3140, "ᄚ|ᄆ|ᄇ|ᄈ|ᄡ"), (0x3165, "ᄔ|ᄕ|ᇇ|ᇈ|ᇌ|ᇎ|ᇓ|ᇗ|ᇙ|ᄜ|ᇝ|ᇟ|ᄝ|ᄞ|ᄠ|ᄢ|ᄣ|ᄧ|ᄩ"),
    (0x317D, "ᄲ|ᄶ|ᅀ|ᅇ|ᅌ|ᇱ|ᇲ|ᅗ|ᅘ|ᅙ|ᆄ|ᆅ|ᆈ|ᆑ|ᆒ|ᆔ|ᆞ|ᆡ"), (0x3192, "一|二|三|四|上|中|下|甲|乙|丙|丁|天|地|人"),
    (0x3200, "(ᄀ)|(ᄂ)|(ᄃ)|(ᄅ)|(ᄆ)|(ᄇ)|(ᄉ)|(ᄋ)|(ᄌ)|(ᄎ)|(ᄏ)|(ᄐ)|(ᄑ)|(ᄒ)|(가)|(나)|(다)"),
    (0x3211, "(라)|(마)|(바)|(사)|(아)|(자)|(차)|(카)|(타)|(파)|(하)|(주)|(오전)|(오후)"),
    (0x3220, "(一)|(二)|(三)|(四)|(五)|(六)|(七)|(八)|(九)|(十)|(月)|(火)|(水)|(木)|(金)|(土)|(日)|(株)"),
    (0x3232, "(有)|(社)|(名)|(特)|(財)|(祝)|(労)|(代)|(呼)|(学)|(監)|(企)|(資)|(協)|(祭)|(休)|(自)|(至)|問"),
    (0x3245, "幼|文|箏"),
    (0x3250, "PTE|21|22|23|24|25|26|27|28|29|30|31|32|33|34|35|ᄀ|ᄂ|ᄃ|ᄅ|ᄆ|ᄇ|ᄉ|ᄋ|ᄌ"),
    (0x326E, "가|나|다|라|마|바|사|아|자|차|카|타|파|하|참고|주의|우||一|二|三|四|五|六|七|八|九"),
    (0x3289, "十|月|火|水|木|金|土|日|株|有|社|名|特|財|祝|労|秘|男|女|適|優|印|注|項|休|写|正|上|中|下|左|右|医|宗|学|監|企"),
    (0x32AE, "資|協|夜|36|37|38|39|40|41|42|43|44|45|46|47|48|49|50|1月|2月|3月|4月|5月|6月|7月|8月"),
    (0x32C8, "9月|10月|11月|12月|Hg|erg|eV|LTD|ア|イ|ウ|エ|オ|カ|キ|ク|ケ|コ|サ|シ|ス|セ|ソ|タ|チ|ツ|テ|ト"),
    (0x32EA, "ヒ|フ|ヘ|ホ"), (0x32F3, "ヤ|ユ"),
    (0x32FB, "ワ|ヰ|ヱ|ヲ|令和|アパート|アルファ|アンペア|アール|イニング|インチ|ウォン|エスクード|エーカー|オンス|オーム|カイリ|カラット"),
    (0x330D, "カロリー|ガロン|ガンマ|ギガ|ギニー|キュリー|ギルダー|キロ|キログラム|キロメートル|キロワット|グラム|グラムトン"),
    (0x331A, "クルゼイロ|クローネ|ケース|コルナ|コーポ|サイクル|サンチーム|シリング|センチ|セント|ダース|デシ|ドル|トン|ナノ|ノット"),
    (0x332A, "ハイツ|パーセント|パーツ|バーレル|ピアストル|ピクル|ピコ|ビル|ファラッド|フィート|ブッシェル|フラン|ヘクタール|ペソ"),
    (0x3338, "ペニヒ|ヘルツ|ペンス|ページ|ベータ|ポイント|ボルト|ホン|ポンド|ホール|ホーン|マイクロ|マイル|マッハ|マルク"),
    (0x3347, "マンション|ミクロン|ミリ|ミリバール|メガ|メガトン|メートル|ヤード|ヤール|ユアン|リットル|リラ|ルピー|ルーブル|レム"),
    (0x3356, "レントゲン|ワット|0点|1点|2点|3点|4点|5点|6点|7点|8点|9点|10点|11点|12点|13点|14点|15点|16点|17点"),
    (0x336A, "18点|19点|20点|21点|22点|23点|24点|hPa|da|AU|bar|oV|pc|dm|dm2|dm3|IU|平成|昭和|大正|明治"),
    (0x337F, "株式会社|pA|nA|μA|mA|kA|KB|MB|GB|cal|kcal|pF|nF|μF|μg|mg|kg|Hz|kHz|MHz|GHz|THz"),
    (0x3395, "μl|ml|dl|kl|fm|nm|μm|mm|cm|km|mm2|cm2|m2|km2|mm3|cm3|m3|km3|m∕s|m∕s2|Pa"),
    (0x33AA, "kPa|MPa|GPa|rad|rad∕s|rad∕s2|ps|ns|μs|ms|pV|nV|μV|mV|kV|MV|pW|nW|μW|mW|kW"),
    (0x33BF, "MW|kΩ|MΩ|a.m.|Bq|cc|cd|C∕kg|Co.|dB|Gy|ha|HP|in|KK|KM|kt|lm|ln|log|lx|mb"),
    (0x33D5, "mil|mol|PH|p.m.|PPM|PR|sr|Sv|Wb|V∕m|A∕m|1日|2日|3日|4日|5日|6日|7日|8日|9日|10日|11日"),
    (0x33EB, "12日|13日|14日|15日|16日|17日|18日|19日|20日|21日|22日|23日|24日|25日|26日|27日|28日|29日"),
    (0x33FD, "30日|31日|gal"), (0xA69C, "ъ|ь"), (0xA770, "ꝯ"), (0xA7F1, "S|C|F|Q"), (0xA7F8, "Ħ|œ"),
    (0xAB5C, "ꜧ|ꬷ|ɫ|ꭒ"), (0xAB69, "ʍ"),
    (0xF900, "豈|更|車|賈|滑|串|句|龜|龜|契|金|喇|奈|懶|癩|羅|蘿|螺|裸|邏|樂|洛|烙|珞|落|酪|駱|亂|卵|欄|爛|蘭|鸞|嵐|濫|藍|襤"),
    (0xF925, "拉|臘|蠟|廊|朗|浪|狼|郎|來|冷|勞|擄|櫓|爐|盧|老|蘆|虜|路|露|魯|鷺|碌|祿|綠|菉|錄|鹿|論|壟|弄|籠|聾|牢|磊|賂|雷"),
    (0xF94A, "壘|屢|樓|淚|漏|累|縷|陋|勒|肋|凜|凌|稜|綾|菱|陵|讀|拏|樂|諾|丹|寧|怒|率|異|北|磻|便|復|不|泌|數|索|參|塞|省|葉"),
    (0xF96F, "說|殺|辰|沈|拾|若|掠|略|亮|兩|凉|梁|糧|良|諒|量|勵|呂|女|廬|旅|濾|礪|閭|驪|麗|黎|力|曆|歷|轢|年|憐|戀|撚|漣|煉"),
    (0xF994, "璉|秊|練|聯|輦|蓮|連|鍊|列|劣|咽|烈|裂|說|廉|念|捻|殮|簾|獵|令|囹|寧|嶺|怜|玲|瑩|羚|聆|鈴|零|靈|領|例|禮|醴|隸"),
    (0xF9B9, "惡|了|僚|寮|尿|料|樂|燎|療|蓼|遼|龍|暈|阮|劉|杻|柳|流|溜|琉|留|硫|紐|類|六|戮|陸|倫|崙|淪|輪|律|慄|栗|率|隆|利"),
    (0xF9DE, "吏|履|易|李|梨|泥|理|痢|罹|裏|裡|里|離|匿|溺|吝|燐|璘|藺|隣|鱗|麟|林|淋|臨|立|笠|粒|狀|炙|識|什|茶|刺|切|度|拓"),
    (0xFA03, "糖|宅|洞|暴|輻|行|降|見|廓|兀|嗀|||塚||晴|||凞|猪|益|礼|神|祥|福|靖|精|羽||蘒||諸|||逸|都"),
    (0xFA2A, "飯|飼|館|鶴|郞|隷|侮|僧|免|勉|勤|卑|喝|嘆|器|塀|墨|層|屮|悔|慨|憎|懲|敏|既|暑|梅|海|渚|漢|煮|爫|琢|碑|社|祉|祈"),
    (0xFA4F, "祐|祖|祝|禍|禎|穀|突|節|練|縉|繁|署|者|臭|艹|艹|著|褐|視|謁|謹|賓|贈|辶|逸|難|響|頻|恵|𤋮|舘|||並|况|全|侀|充"),
    (0xFA75, "冀|勇|勺|喝|啕|喙|嗢|塚|墳|奄|奔|婢|嬨|廒|廙|彩|徭|惘|慎|愈|憎|慠|懲|戴|揄|搜|摒|敖|晴|朗|望|杖|歹|殺|流|滛|滋"),
    (0xFA9A, "漢|瀞|煮|瞧|爵|犯|猪|瑱|甆|画|瘝|瘟|益|盛|直|睊|着|磌|窱|節|类|絛|練|缾|者|荒|華|蝹|襁|覆|視|調|諸|請|謁|諾|諭"),
    (0xFABF, "謹|變|贈|輸|遲|醙|鉶|陼|難|靖|韛|響|頋|頻|鬒|龜|𢡊|𢡄|𣏕|㮝|䀘|䀹|𥉉|𥳐|𧻓|齃|龎"),
    (0xFB00, "ff|fi|fl|ffi|ffl|st|st"), (0xFB13, "մն|մե|մի|վն|մխ"),
    (0xFB1D, "יִ||ײַ|ע|א|ד|ה|כ|ל|ם|ר|ת|+|שׁ|שׂ|שּׁ|שּׂ|אַ|אָ|אּ|בּ|גּ|דּ|הּ|וּ|זּ||טּ|יּ"),
    (0xFB3A, "ךּ|כּ|לּ||מּ||נּ|סּ||ףּ|פּ||צּ|קּ|רּ|שּ|תּ|וֹ|בֿ|כֿ|פֿ|אל|ٱ|ٱ|ٻ|ٻ|ٻ|ٻ|پ|پ"),
    (0xFB58, "پ|پ|ڀ|ڀ|ڀ|ڀ|ٺ|ٺ|ٺ|ٺ|ٿ|ٿ|ٿ|ٿ|ٹ|ٹ|ٹ|ٹ|ڤ|ڤ|ڤ|ڤ|ڦ|ڦ|ڦ|ڦ|ڄ|ڄ|ڄ|ڄ|ڃ|ڃ|ڃ|ڃ|چ|چ|چ"),
    (0xFB7D, "چ|ڇ|ڇ|ڇ|ڇ|ڍ|ڍ|ڌ|ڌ|ڎ|ڎ|ڈ|ڈ|ژ|ژ|ڑ|ڑ|ک|ک|ک|ک|گ|گ|گ|گ|ڳ|ڳ|ڳ|ڳ|ڱ|ڱ|ڱ|ڱ|ں|ں|ڻ|ڻ"),
    (0xFBA2, "ڻ|ڻ|ۀ|ۀ|ہ|ہ|ہ|ہ|ھ|ھ|ھ|ھ|ے|ے|ۓ|ۓ"),
    (0xFBD3, "ڭ|ڭ|ڭ|ڭ|ۇ|ۇ|ۆ|ۆ|ۈ|ۈ|ۇٴ|ۋ|ۋ|ۅ|ۅ|ۉ|ۉ|ې|ې|ې|ې|ى|ى|ئا|ئا|ئە|ئە|ئو|ئو|ئۇ"),
    (0xFBF1, "ئۇ|ئۆ|ئۆ|ئۈ|ئۈ|ئې|ئې|ئې|ئى|ئى|ئى|ی|ی|ی|ی|ئج|ئح|ئم|ئى|ئي|بج"),
    (0xFC06, "بح|بخ|بم|بى|بي|تج|تح|تخ|تم|تى|تي|ثج|ثم|ثى|ثي|جح|جم|حج|حم|خج|خح|خم|سج|سح|سخ"),
    (0xFC1F, "سم|صح|صم|ضج|ضح|ضخ|ضم|طح|طم|ظم|عج|عم|غج|غم|فج|فح|فخ|فم|فى|في|قح|قم|قى|قي|كا"),
    (0xFC38, "كج|كح|كخ|كل|كم|كى|كي|لج|لح|لخ|لم|لى|لي|مج|مح|مخ|مم|مى|مي|نج|نح|نخ|نم|نى|ني"),
    (0xFC51, "هج|هم|هى|هي|يج|يح|يخ|يم|يى|يي|ذٰ|رٰ|ىٰ| ٌّ| ٍّ| َّ| ُّ| ِّ| ّٰ|ئر|ئز|ئم"),
    (0xFC67, "ئن|ئى|ئي|بر|بز|بم|بن|بى|بي|تر|تز|تم|تن|تى|تي|ثر|ثز|ثم|ثن|ثى|ثي|فى|في|قى"),
    (0xFC7F, "قي|كا|كل|كم|كى|كي|لم|لى|لي|ما|مم|نر|نز|نم|نن|نى|ني|ىٰ|ير|يز|يم|ين|يى|يي"),
    (0xFC97, "ئج|ئح|ئخ|ئم|ئه|بج|بح|بخ|بم|به|تج|تح|تخ|تم|ته|ثم|جح|جم|حج|حم|خج|خم|سج"),
    (0xFCAE, "سح|سخ|سم|صح|صخ|صم|ضج|ضح|ضخ|ضم|طح|ظم|عج|عم|غج|غم|فج|فح|فخ|فم|قح|قم|كج|كح|كخ"),
    (0xFCC7, "كل|كم|لج|لح|لخ|لم|له|مج|مح|مخ|مم|نج|نح|نخ|نم|نه|هج|هم|هٰ|يج|يح|يخ|يم|يه"),
    (0xFCDF, "ئم|ئه|بم|به|تم|ته|ثم|ثه|سم|سه|شم|شه|كل|كم|لم|نم|نه|يم|يه|ـَّ|ـُّ|ـِّ|طى"),
    (0xFCF6, "طي|عى|عي|غى|غي|سى|سي|شى|شي|حى|حي|جى|جي|خى|خي|صى|صي|ضى|ضي|شج|شح|شخ|شم|شر|سر"),
    (0xFD0F, "صر|ضر|طى|طي|عى|عي|غى|غي|سى|سي|شى|شي|حى|حي|جى|جي|خى|خي|صى|صي|ضى|ضي|شج|شح|شخ"),
    (0xFD28, "شم|شر|سر|صر|ضر|شج|شح|شخ|شم|سه|شه|طم|سج|سح|سخ|شج|شح|شخ|طم|ظم|اً|اً"),
    (0xFD50, "تجم|تحج|تحج|تحم|تخم|تمج|تمح|تمخ|جمح|جمح|حمي|حمى|سحج|سجح|سجى|سمح|سمح|سمج"),
    (0xFD62, "سمم|سمم|صحح|صحح|صمم|شحم|شحم|شجي|شمخ|شمخ|شمم|شمم|ضحى|ضخم|ضخم|طمح|طمح|طمم"),
    (0xFD74, "طمي|عجم|عمم|عمم|عمى|غمم|غمي|غمى|فخم|فخم|قمح|قمم|لحم|لحي|لحى|لجج|لجج|لخم"),
    (0xFD86, "لخم|لمح|لمح|محج|محم|محي|مجح|مجم|مخج|مخم|||مجخ|همج|همم|نحم|نحى|نجم|نجم|نجى"),
    (0xFD9A, "نمي|نمى|يمم|يمم|بخي|تجي|تجى|تخي|تخى|تمي|تمى|جمي|جحى|جمى|سخى|صحي|شحي|ضحي"),
    (0xFDAC, "لجي|لمي|يحي|يجي|يمي|ممي|قمي|نحي|قمح|لحم|عمي|كمي|نجح|مخي|لجم|كمم|لجم|نجح"),
    (0xFDBE, "جحي|حجي|مجي|فمي|بحي|كمم|عجم|صمم|سخي|نجي"),
    (0xFDF0, "صلے|قلے|الله|اكبر|محمد|صلعم|رسول|عليه|وسلم|صلى|صلى الله عليه وسلم|جل جلاله"),
    (0xFDFC, "ریال"), (0xFE10, ",|、|。|:|;|!|?|〖|〗|..."),
    (0xFE30, "..|—|–|_|_|(|)|\x7b|\x7d|〔|〕|【|】|《|》|〈|〉|「|」|『|』|||[|]| ̅| ̅| ̅| ̅|_|_|_|,"),
    (0xFE51, "、|.||;|:|?|!|—|(|)|\x7b|\x7d|〔|〕|#|&|*|+|-|<|>|=||\\|$|%|@"),
    (0xFE70, " ً|ـً| ٌ|| ٍ|| َ|ـَ| ُ|ـُ| ِ|ـِ| ّ|ـّ| ْ|ـْ|ء|آ|آ|أ|أ|ؤ|ؤ|إ|إ|ئ"),
    (0xFE8A, "ئ|ئ|ئ|ا|ا|ب|ب|ب|ب|ة|ة|ت|ت|ت|ت|ث|ث|ث|ث|ج|ج|ج|ج|ح|ح|ح|ح|خ|خ|خ|خ|د|د|ذ|ذ|ر"),
    (0xFEAE, "ر|ز|ز|س|س|س|س|ش|ش|ش|ش|ص|ص|ص|ص|ض|ض|ض|ض|ط|ط|ط|ط|ظ|ظ|ظ|ظ|ع|ع|ع|ع|غ|غ|غ|غ|ف|ف"),
    (0xFED3, "ف|ف|ق|ق|ق|ق|ك|ك|ك|ك|ل|ل|ل|ل|م|م|م|م|ن|ن|ن|ن|ه|ه|ه|ه|و|و|ى|ى|ي|ي|ي|ي|لآ"),
    (0xFEF6, "لآ|لأ|لأ|لإ|لإ|لا|لا"),
    (0xFF5F, "⦅|⦆|。|「|」|、|・|ヲ|ァ|ィ|ゥ|ェ|ォ|ャ|ュ|ョ|ッ|ー|ア|イ|ウ|エ|オ|カ|キ|ク|ケ|コ|サ|シ|ス|セ|ソ|タ|チ|ツ|テ"),
    (0xFF84, "ト"), (0xFF8B, "ヒ|フ|ヘ|ホ"), (0xFF94, "ヤ|ユ"), (0xFF9C, "ワ|ン"),
    (0xFFA1, "ᄀ|ᄁ|ᆪ|ᄂ|ᆬ|ᆭ|ᄃ|ᄄ|ᄅ"), (0xFFB0, "ᄚ|ᄆ|ᄇ|ᄈ|ᄡ"), (0xFFDA, "ᅳ|ᅴ|ᅵ"),
    (0xFFE0, "¢|£|¬| ̄|¦|¥|₩||│|←|↑|→|↓|■|○"),
    (0x10781, "ː|ˑ|æ|ʙ|ɓ||ʣ|ꭦ|ʥ|ʤ|ɖ|ɗ|ᶑ|ɘ|ɞ|ʩ|ɤ|ɢ|ɠ|ʛ|ħ|ʜ|ɧ|ʄ|ʪ|ʫ|ɬ|𝼄|ꞎ|ɮ|𝼅|ʎ|𝼆|ø|ɶ|ɷ|q|ɺ"),
    (0x107A7, "𝼈|ɽ|ɾ|ʀ|ʨ|ʦ|ꭧ|ʧ|ʈ|ⱱ||ʏ|ʡ|ʢ|ʘ|ǀ|ǁ|ǂ|𝼊|𝼞"), (0x1D15E, "𝅗𝅥|𝅘𝅥|𝅘𝅥𝅮|𝅘𝅥𝅯|𝅘𝅥𝅰|𝅘𝅥𝅱|𝅘𝅥𝅲"),
    (0x1D1BB, "𝆹𝅥|𝆺𝅥|𝆹𝅥𝅮|𝆺𝅥𝅮|𝆹𝅥𝅯|𝆺𝅥𝅯"), (0x1D49C, "A||C|D|||G|||J|K|||N|O|P|Q"),
    (0x1D4B6, "a|b|c|d||f"), (0x1D504, "A|B||D|E|F|G"), (0x1D538, "A|B||D|E|F|G"), (0x1D546, "O"),
    (0x1D6A4, "ı|ȷ"), (0x1D6B9, "Θ"), (0x1D6C1, "∇"), (0x1D6DB, "∂|ε|θ|κ|φ|ρ|π"), (0x1D6F3, "Θ"),
    (0x1D6FB, "∇"), (0x1D715, "∂|ε|θ|κ|φ|ρ|π"), (0x1D72D, "Θ"), (0x1D735, "∇"),
    (0x1D74F, "∂|ε|θ|κ|φ|ρ|π"), (0x1D767, "Θ"), (0x1D76F, "∇"), (0x1D789, "∂|ε|θ|κ|φ|ρ|π"),
    (0x1D7A1, "Θ"), (0x1D7A9, "∇"), (0x1D7C3, "∂|ε|θ|κ|φ|ρ|π|Ϝ|ϝ"), (0x1E039, "к|л|м"),
    (0x1E047, "ы|э|ю|ꚉ|ә|і|ј|ө|ү|ӏ"), (0x1E05A, "к|л|о|п|с"), (0x1E065, "ъ|ы|ґ|і|ѕ|џ|ҫ|ꙑ|ұ"),
    (0x1EE00, "ا|ب|ج|د||و|ز|ح|ط|ي|ك|ل|م|ن|س|ع|ف|ص|ق|ر|ش|ت|ث|خ|ذ|ض|ظ|غ|ٮ|ں|ڡ|ٯ||ب|ج||ه|||ح"),
    (0x1EE29, "ي|ك|ل|م|ن|س|ع|ف|ص|ق||ش|ت|ث|خ||ض||غ"), (0x1EE42, "ج"),
    (0x1EE47, "ح||ي||ل||ن|س|ع||ص|ق||ش|||خ||ض||غ||ں||ٯ||ب|ج||ه|||ح|ط|ي|ك||م|ن|س|ع|ف|ص|ق||ش"),
    (0x1EE75, "ت|ث|خ||ض|ظ|غ|ٮ||ڡ||ا|ب|ج|د|ه|و|ز|ح|ط|ي||ل|م|ن|س|ع|ف|ص|ق|ر|ش|ت|ث|خ|ذ|ض|ظ|غ"),
    (0x1EEA1, "ب|ج|د||و|ز|ح|ط|ي||ل|م|ن|س|ع|ف|ص|ق|ر|ش|ت|ث|خ|ذ|ض|ظ|غ"),
    (0x1F100, "0.|0,|1,|2,|3,|4,|5,|6,|7,|8,|9,"),
    (0x1F110, "(A)|(B)|(C)|(D)|(E)|(F)|(G)|(H)|(I)|(J)|(K)|(L)|(M)|(N)|(O)|(P)|(Q)|(R)"),
    (0x1F122, "(S)|(T)|(U)|(V)|(W)|(X)|(Y)|(Z)|〔S〕|C|R|CD|WZ"), (0x1F14A, "HV|MV|SD|SS|PPV|WC"),
    (0x1F16A, "MC|MD|MR"), (0x1F190, "DJ"), (0x1F200, "ほか|ココ|サ"),
    (0x1F210, "手|字|双|デ|二|多|解|天|交|映|無|料|前|後|再|新|初|終|生|販|声|吹|演|投|捕|一|三|遊|左|中|右|指|走|打|禁|空|合"),
    (0x1F235, "満|有|月|申|割|営|配"), (0x1F240, "〔本〕|〔三〕|〔二〕|〔安〕|〔点〕|〔打〕|〔盗〕|〔勝〕|〔敗〕"), (0x1F250, "得|可"),
    (0x2F800, "丽|丸|乁|𠄢|你|侮|侻|倂|偺|備|僧|像|㒞|𠘺|免|兔|兤|具|𠔜|㒹|內|再|𠕋|冗|冤|仌|冬|况|𩇟|凵|刃|㓟|刻|剆|割|剷|㔕"),
    (0x2F825, "勇|勉|勤|勺|包|匆|北|卉|卑|博|即|卽|卿|卿|卿|𠨬|灰|及|叟|𠭣|叫|叱|吆|咞|吸|呈|周|咢|哶|唐|啓|啣|善|善|喙|喫|喳"),
    (0x2F84A, "嗂|圖|嘆|圗|噑|噴|切|壮|城|埴|堍|型|堲|報|墬|𡓤|売|壷|夆|多|夢|奢|𡚨|𡛪|姬|娛|娧|姘|婦|㛮|㛼|嬈|嬾|嬾|𡧈|寃|寘"),
    (0x2F86F, "寧|寳|𡬘|寿|将|当|尢|㞁|屠|屮|峀|岍|𡷤|嵃|𡷦|嵮|嵫|嵼|巡|巢|㠯|巽|帨|帽|幩|㡢|𢆃|㡼|庰|庳|庶|廊|𪎒|廾|𢌱|𢌱|舁"),
    (0x2F894, "弢|弢|㣇|𣊸|𦇚|形|彫|㣣|徚|忍|志|忹|悁|㤺|㤜|悔|𢛔|惇|慈|慌|慎|慌|慺|憎|憲|憤|憯|懞|懲|懶|成|戛|扝|抱|拔|捐|𢬌"),
    (0x2F8B9, "挽|拼|捨|掃|揤|𢯱|搢|揅|掩|㨮|摩|摾|撝|摷|㩬|敏|敬|𣀊|旣|書|晉|㬙|暑|㬈|㫤|冒|冕|最|暜|肭|䏙|朗|望|朡|杞|杓|𣏃"),
    (0x2F8DE, "㭉|柺|枅|桒|梅|𣑭|梎|栟|椔|㮝|楂|榣|槪|檨|𣚣|櫛|㰘|次|𣢧|歔|㱎|歲|殟|殺|殻|𣪍|𡴋|𣫺|汎|𣲼|沿|泍|汧|洖|派|海|流"),
    (0x2F903, "浩|浸|涅|𣴞|洴|港|湮|㴳|滋|滇|𣻑|淹|潮|𣽞|𣾎|濆|瀹|瀞|瀛|㶖|灊|災|灷|炭|𠔥|煅|𤉣|熜|𤎫|爨|爵|牐|𤘈|犀|犕|𤜵|𤠔"),
    (0x2F928, "獺|王|㺬|玥|㺸|㺸|瑇|瑜|瑱|璅|瓊|㼛|甤|𤰶|甾|𤲒|異|𢆟|瘐|𤾡|𤾸|𥁄|㿼|䀈|直|𥃳|𥃲|𥄙|𥄳|眞|真|真|睊|䀹|瞋|䁆|䂖"),
    (0x2F94D, "𥐝|硎|碌|磌|䃣|𥘦|祖|𥚚|𥛅|福|秫|䄯|穀|穊|穏|𥥼|𥪧|𥪧|竮|䈂|𥮫|篆|築|䈧|𥲀|糒|䊠|糨|糣|紀|𥾆|絣|䌁|緇|縂|繅|䌴"),
    (0x2F972, "𦈨|𦉇|䍙|𦋙|罺|𦌾|羕|翺|者|𦓚|𦔣|聠|𦖨|聰|𣍟|䏕|育|脃|䐋|脾|媵|𦞧|𦞵|𣎓|𣎜|舁|舄|辞|䑫|芑|芋|芝|劳|花|芳|芽|苦"),
    (0x2F997, "𦬼|若|茝|荣|莭|茣|莽|菧|著|荓|菊|菌|菜|𦰶|𦵫|𦳕|䔫|蓱|蓳|蔖|𧏊|蕤|𦼬|䕝|䕡|𦾱|𧃒|䕫|虐|虜|虧|虩|蚩|蚈|蜎|蛢|蝹"),
    (0x2F9BC, "蜨|蝫|螆|䗗|蟡|蠁|䗹|衠|衣|𧙧|裗|裞|䘵|裺|㒻|𧢮|𧥦|䚾|䛇|誠|諭|變|豕|𧲨|貫|賁|贛|起|𧼯|𠠄|跋|趼|跰|𠣞|軔|輸|𨗒"),
    (0x2F9E1, "𨗭|邔|郱|鄑|𨜮|鄛|鈸|鋗|鋘|鉼|鏹|鐕|𨯺|開|䦕|閷|𨵷|䧦|雃|嶲|霣|𩅅|𩈚|䩮|䩶|韠|𩐊|䪲|𩒖|頋|頋|頩|𩖶|飢|䬳|餩|馧"),
    (0x2FA06, "駂|駾|䯎|𩬰|鬒|鱀|鳽|䳎|䳭|鵧|𪃎|䳸|𪄅|𪈎|𪊑|麻|䵖|黹|黾|鼅|鼏|鼖|鼻|𪘀")]

/-- Characters that stand for marks, or for a text that begins with one. -/
def equivalentMarks : List (Nat × List Nat) :=
  [(0x340, [0x300]), (0x341, [0x301]), (0x343, [0x313]), (0x344, [0x308, 0x301]),
    (0xE33, [0xE4D, 0xE32]), (0xEB3, [0xECD, 0xEB2]), (0xF73, [0xF71, 0xF72]),
    (0xF75, [0xF71, 0xF74]), (0xF76, [0xFB2, 0xF80]), (0xF77, [0xFB2, 0xF71, 0xF80]),
    (0xF78, [0xFB3, 0xF80]), (0xF79, [0xFB3, 0xF71, 0xF80]), (0xF81, [0xF71, 0xF80]),
    (0xF93, [0xF92, 0xFB7]), (0xF9D, [0xF9C, 0xFB7]), (0xFA2, [0xFA1, 0xFB7]),
    (0xFA7, [0xFA6, 0xFB7]), (0xFAC, [0xFAB, 0xFB7]), (0xFB9, [0xF90, 0xFB5]), (0xFF9E, [0x3099]),
    (0xFF9F, [0x309A])]

/-- What characters stand for, one entry for each code point from the first one on. -/
def equivalentBlocks : List (Nat × List (List Char)) :=
  equivalentTexts.map fun entry => (entry.1, Text.splitAt (· == '|') entry.2.toList)

/-- What a character stands for, if it stands for others. -/
def equivalent? (character : Char) : Option (List Char) :=
  let point := character.toNat
  match equivalentRuns.find? fun run => decide (run.1 ≤ point ∧ point ≤ run.2.1) with
  | some run => some [Char.ofNat (run.2.2 + (point - run.1))]
  | none =>
    match equivalentMarks.find? fun entry => entry.1 == point with
    | some (_, marks) => some (marks.map Char.ofNat)
    | none =>
      let found := equivalentBlocks.findSome? fun entry =>
        if isAmong entry.1 entry.2.length point then entry.2[point - entry.1]? else none
      found.filter fun text => !text.isEmpty

/-- The parts of a character down to the given depth. -/
def partsWithin : Nat → Char → List Char
  | 0, character => [character]
  | depth + 1, character =>
    match equivalent? character with
    | some characters => characters
    | none =>
      match compositions.find? fun composition => composition.whole == character with
      | some composition => partsWithin depth composition.first ++ [composition.mark]
      | none => [character]

/-- The greatest number of marks in a composed character. -/
def mostMarks : Nat := 3

/-- **The ordinary characters that a character stands for**, with the marks of a composed
character behind its first part. -/
def decomposition (character : Char) : List Char :=
  match syllableLetters? character with
  | some letters => letters
  | none => partsWithin (mostMarks + 1) character

end ResponsesBridge.Unicode
