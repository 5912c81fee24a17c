/-
  Variants of characters.

  Capitals, ligatures, wide and narrow forms and the like are other ways of writing
  characters.  `Variant.target?` is what such a character stands for in a host name.
-/
import ElmAssist.Text.Split

namespace ElmAssist.Uri.Variant

/-- What variants stand for: a code point, a step, and the texts for the code points
    from there on, each by the step after the one before, with blanks between them. -/
def blocks : List (Nat × Nat × String) :=
  [(0x41, 1, "a b c d e f g h i j k l m n o p q r s t u v w x y z"), (0xAA, 1, "a"),
   (0xB2, 1, "2 3"), (0xB5, 1, "μ"), (0xB9, 1, "1 o"), (0xBC, 1, "1⁄4 1⁄2 3⁄4"),
   (0xC0, 1, "à á â ã ä å æ ç è é ê ë ì í î ï ð ñ ò ó ô õ ö"), (0xD8, 1, "ø ù ú û ü ý þ"),
   (0x100, 2, "ā ă ą ć ĉ ċ č ď đ ē ĕ ė ę ě ĝ ğ ġ ģ ĥ ħ ĩ ī ĭ į i\u0307"), (0x132, 1, "ij ij ĵ"),
   (0x136, 1, "ķ"), (0x139, 2, "ĺ ļ ľ"), (0x13F, 1, "l· l· ł"), (0x143, 2, "ń ņ ň"),
   (0x149, 1, "ʼn ŋ"), (0x14C, 2, "ō ŏ ő œ ŕ ŗ ř ś ŝ ş š ţ ť ŧ ũ ū ŭ ů ű ų ŵ ŷ"),
   (0x178, 1, "ÿ ź"), (0x17B, 2, "ż ž s"), (0x181, 1, "ɓ ƃ"), (0x184, 1, "ƅ"), (0x186, 1, "ɔ ƈ"),
   (0x189, 1, "ɖ ɗ ƌ"), (0x18E, 1, "ǝ ə ɛ ƒ"), (0x193, 1, "ɠ ɣ"), (0x196, 1, "ɩ ɨ ƙ"),
   (0x19C, 1, "ɯ ɲ"), (0x19F, 1, "ɵ ơ"), (0x1A2, 2, "ƣ ƥ"), (0x1A6, 1, "ʀ ƨ"), (0x1A9, 1, "ʃ"),
   (0x1AC, 1, "ƭ"), (0x1AE, 1, "ʈ ư"), (0x1B1, 1, "ʊ ʋ ƴ"), (0x1B5, 1, "ƶ"), (0x1B7, 1, "ʒ ƹ"),
   (0x1BC, 1, "ƽ"), (0x1C4, 1, "dž dž dž lj lj lj nj nj nj ǎ"), (0x1CF, 2, "ǐ ǒ ǔ ǖ ǘ ǚ ǜ"),
   (0x1DE, 2, "ǟ ǡ ǣ ǥ ǧ ǩ ǫ ǭ ǯ"), (0x1F1, 1, "dz dz dz ǵ"), (0x1F6, 1, "ƕ ƿ ǹ"),
   (0x1FA, 2, "ǻ ǽ ǿ ȁ ȃ ȅ ȇ ȉ ȋ ȍ ȏ ȑ ȓ ȕ ȗ ș ț ȝ ȟ ƞ ȣ ȥ ȧ ȩ ȫ ȭ ȯ ȱ ȳ"), (0x23A, 1, "ⱥ ȼ"),
   (0x23D, 1, "ƚ ⱦ"), (0x241, 1, "ɂ"), (0x243, 1, "ƀ ʉ ʌ ɇ"), (0x248, 2, "ɉ ɋ ɍ ɏ"),
   (0x2B0, 1, "h ɦ j r ɹ ɻ ʁ w y"), (0x2E0, 1, "ɣ l s x ʕ"), (0x340, 1, "\u0300 \u0301"),
   (0x343, 1, "\u0313 \u0308\u0301 ι"), (0x370, 2, "ͱ ͳ ʹ ͷ"), (0x37E, 1, "; ϳ"),
   (0x386, 1, "ά · έ ή ί"), (0x38C, 1, "ό"), (0x38E, 1, "ύ ώ"),
   (0x391, 1, "α β γ δ ε ζ η θ ι κ λ μ ν ξ ο π ρ"), (0x3A3, 1, "σ τ υ φ χ ψ ω ϊ ϋ"),
   (0x3CF, 1, "ϗ β θ υ ύ ϋ φ π"), (0x3D8, 2, "ϙ ϛ ϝ ϟ ϡ ϣ ϥ ϧ ϩ ϫ ϭ ϯ"), (0x3F0, 1, "κ ρ σ"),
   (0x3F4, 1, "θ ε"), (0x3F7, 1, "ϸ"), (0x3F9, 1, "σ ϻ"),
   (0x3FD, 1, "ͻ ͼ ͽ ѐ ё ђ ѓ є ѕ і ї ј љ њ ћ ќ ѝ ў џ а б в г д е ж з и й к л м н о п р с т у ф х " ++
    "ц ч ш щ ъ ы ь э ю я"),
   (0x460, 2, "ѡ ѣ ѥ ѧ ѩ ѫ ѭ ѯ ѱ ѳ ѵ ѷ ѹ ѻ ѽ ѿ ҁ"),
   (0x48A, 2, "ҋ ҍ ҏ ґ ғ ҕ җ ҙ қ ҝ ҟ ҡ ң ҥ ҧ ҩ ҫ ҭ ү ұ ҳ ҵ ҷ ҹ һ ҽ ҿ"), (0x4C0, 1, "ӏ ӂ"),
   (0x4C3, 2, "ӄ ӆ ӈ ӊ ӌ ӎ"),
   (0x4D0, 2, "ӑ ӓ ӕ ӗ ә ӛ ӝ ӟ ӡ ӣ ӥ ӧ ө ӫ ӭ ӯ ӱ ӳ ӵ ӷ ӹ ӻ ӽ ӿ ԁ ԃ ԅ ԇ ԉ ԋ ԍ ԏ ԑ ԓ ԕ ԗ ԙ ԛ ԝ ԟ ԡ " ++
    "ԣ ԥ ԧ ԩ ԫ ԭ ԯ"),
   (0x531, 1, "ա բ գ դ ե զ է ը թ ժ ի լ խ ծ կ հ ձ ղ ճ մ յ ն շ ո չ պ ջ ռ ս վ տ ր ց ւ փ ք օ ֆ"),
   (0x558, 1, "ՠ"), (0x587, 1, "եւ"), (0x58B, 1, "ֈ"),
   (0x675, 1, "\u0627\u0674 \u0648\u0674 \u06c7\u0674 \u064a\u0674"),
   (0x958, 1, "क\u093c ख\u093c ग\u093c ज\u093c ड\u093c ढ\u093c फ\u093c य\u093c"),
   (0x9DC, 1, "ড\u09bc ঢ\u09bc"), (0x9DF, 1, "য\u09bc"), (0xA33, 1, "ਲ\u0a3c"),
   (0xA36, 1, "ਸ\u0a3c"), (0xA59, 1, "ਖ\u0a3c ਗ\u0a3c ਜ\u0a3c"), (0xA5E, 1, "ਫ\u0a3c"),
   (0xB5C, 1, "ଡ\u0b3c ଢ\u0b3c"), (0xE33, 1, "\u0e4dา"), (0xEB3, 1, "\u0ecdາ"),
   (0xEDC, 1, "ຫນ ຫມ"), (0xF0C, 1, "་"), (0xF43, 1, "ག\u0fb7"), (0xF4D, 1, "ཌ\u0fb7"),
   (0xF52, 1, "ད\u0fb7"), (0xF57, 1, "བ\u0fb7"), (0xF5C, 1, "ཛ\u0fb7"), (0xF69, 1, "ཀ\u0fb5"),
   (0xF73, 1, "\u0f71\u0f72"),
   (0xF75, 1, "\u0f71\u0f74 \u0fb2\u0f80 \u0fb2\u0f71\u0f80 \u0fb3\u0f80 \u0fb3\u0f71\u0f80"),
   (0xF81, 1, "\u0f71\u0f80"), (0xF93, 1, "\u0f92\u0fb7"), (0xF9D, 1, "\u0f9c\u0fb7"),
   (0xFA2, 1, "\u0fa1\u0fb7"), (0xFA7, 1, "\u0fa6\u0fb7"), (0xFAC, 1, "\u0fab\u0fb7"),
   (0xFB9, 1, "\u0f90\u0fb5"),
   (0x10A0, 1, "ⴀ ⴁ ⴂ ⴃ ⴄ ⴅ ⴆ ⴇ ⴈ ⴉ ⴊ ⴋ ⴌ ⴍ ⴎ ⴏ ⴐ ⴑ ⴒ ⴓ ⴔ ⴕ ⴖ ⴗ ⴘ ⴙ ⴚ ⴛ ⴜ ⴝ ⴞ ⴟ ⴠ ⴡ ⴢ ⴣ ⴤ ⴥ"),
   (0x10C7, 1, "ⴧ"), (0x10CD, 1, "ⴭ"), (0x10FC, 1, "ნ"), (0x13F8, 1, "Ᏸ Ᏹ Ᏺ Ᏻ Ᏼ Ᏽ"),
   (0x1C80, 1, "в д о с т т ъ ѣ ꙋ \u1c8a"),
   (0x1C90, 1, "ა ბ გ დ ე ვ ზ თ ი კ ლ მ ნ ო პ ჟ რ ს ტ უ ფ ქ ღ ყ შ ჩ ც ძ წ ჭ ხ ჯ ჰ ჱ ჲ ჳ ჴ ჵ ჶ ჷ ჸ " ++
    "ჹ ჺ"),
   (0x1CBD, 1, "ჽ ჾ ჿ"), (0x1D2C, 1, "a æ b"), (0x1D30, 1, "d e ǝ g h i j k l m n"),
   (0x1D3C, 1, "o ȣ p r t u w a ɐ ɑ ᴂ b d e ə ɛ ɜ g"),
   (0x1D4F, 1, "k m ŋ o ɔ ᴖ ᴗ p t u ᴝ ɯ v ᴥ β γ δ φ χ i r u v β γ ρ φ χ"), (0x1D78, 1, "н"),
   (0x1D9B, 1, "ɒ c ɕ ð ɜ f ɟ ɡ ɥ ɨ ɩ ɪ ᵻ ʝ ɭ ᶅ ʟ ɱ ɰ ɲ ɳ ɴ ɵ ɸ ʂ ʃ ƫ ʉ ʊ ᴜ ʋ ʌ z ʐ ʑ ʒ θ"),
   (0x1E00, 2, "ḁ ḃ ḅ ḇ ḉ ḋ ḍ ḏ ḑ ḓ ḕ ḗ ḙ ḛ ḝ ḟ ḡ ḣ ḥ ḧ ḩ ḫ ḭ ḯ ḱ ḳ ḵ ḷ ḹ ḻ ḽ ḿ ṁ ṃ ṅ ṇ ṉ ṋ ṍ ṏ ṑ " ++
    "ṓ ṕ ṗ ṙ ṛ ṝ ṟ ṡ ṣ ṥ ṧ ṩ ṫ ṭ ṯ ṱ ṳ ṵ ṷ ṹ ṻ ṽ ṿ ẁ ẃ ẅ ẇ ẉ ẋ ẍ ẏ ẑ ẓ ẕ"),
   (0x1E9A, 1, "aʾ ṡ"),
   (0x1E9E, 2, "ß ạ ả ấ ầ ẩ ẫ ậ ắ ằ ẳ ẵ ặ ẹ ẻ ẽ ế ề ể ễ ệ ỉ ị ọ ỏ ố ồ ổ ỗ ộ ớ ờ ở ỡ ợ ụ ủ ứ ừ ử ữ " ++
    "ự ỳ ỵ ỷ ỹ ỻ ỽ ỿ"),
   (0x1F08, 1, "ἀ ἁ ἂ ἃ ἄ ἅ ἆ ἇ"), (0x1F18, 1, "ἐ ἑ ἒ ἓ ἔ ἕ"), (0x1F28, 1, "ἠ ἡ ἢ ἣ ἤ ἥ ἦ ἧ"),
   (0x1F38, 1, "ἰ ἱ ἲ ἳ ἴ ἵ ἶ ἷ"), (0x1F48, 1, "ὀ ὁ ὂ ὃ ὄ ὅ"), (0x1F59, 2, "ὑ ὓ ὕ ὗ"),
   (0x1F68, 1, "ὠ ὡ ὢ ὣ ὤ ὥ ὦ ὧ"), (0x1F71, 2, "ά έ ή ί ό ύ ώ"),
   (0x1F80, 1, "ἀι ἁι ἂι ἃι ἄι ἅι ἆι ἇι ἀι ἁι ἂι ἃι ἄι ἅι ἆι ἇι ἠι ἡι ἢι ἣι ἤι ἥι ἦι ἧι ἠι ἡι ἢι " ++
    "ἣι ἤι ἥι ἦι ἧι ὠι ὡι ὢι ὣι ὤι ὥι ὦι ὧι ὠι ὡι ὢι ὣι ὤι ὥι ὦι ὧι"),
   (0x1FB2, 1, "ὰι αι άι"), (0x1FB7, 1, "ᾶι ᾰ ᾱ ὰ ά αι"), (0x1FBE, 1, "ι"),
   (0x1FC2, 1, "ὴι ηι ήι"), (0x1FC7, 1, "ῆι ὲ έ ὴ ή ηι"), (0x1FD3, 1, "ΐ"),
   (0x1FD8, 1, "ῐ ῑ ὶ ί"), (0x1FE3, 1, "ΰ"), (0x1FE8, 1, "ῠ ῡ ὺ ύ ῥ"), (0x1FEF, 1, "\x60"),
   (0x1FF2, 1, "ὼι ωι ώι"), (0x1FF7, 1, "ῶι ὸ ό ὼ ώ ωι"), (0x2011, 1, "‐"), (0x2033, 1, "′′ ′′′"),
   (0x2036, 1, "‵‵ ‵‵‵"), (0x203C, 1, "!!"), (0x2057, 1, "′′′′"), (0x2070, 1, "0 i"),
   (0x2074, 1, "4 5 6 7 8 9 + − = ( ) n 0 1 2 3 4 5 6 7 8 9 + − = ( )"),
   (0x2090, 1, "a e o x ə h k l m n p s t"), (0x20A8, 1, "rs"), (0x2102, 1, "c °c"),
   (0x2107, 1, "ɛ"), (0x2109, 1, "°f g h h h h ħ i i l l"), (0x2115, 1, "n no"),
   (0x2119, 1, "p q r r r"), (0x2120, 1, "sm tel tm"), (0x2124, 2, "z ω z"),
   (0x212A, 1, "k å b c"), (0x212F, 1, "e e f ⅎ m o \u05d0 \u05d1 \u05d2 \u05d3 i"),
   (0x213B, 1, "fax π γ γ π ∑"), (0x2145, 1, "d d e i j"),
   (0x2150, 1, "1⁄7 1⁄9 1⁄10 1⁄3 2⁄3 1⁄5 2⁄5 3⁄5 4⁄5 1⁄6 5⁄6 1⁄8 3⁄8 5⁄8 7⁄8 1⁄ i ii iii iv v vi " ++
    "vii viii ix x xi xii l c d m i ii iii iv v vi vii viii ix x xi xii l c d m"),
   (0x2183, 1, "ↄ"), (0x2189, 1, "0⁄3"), (0x222C, 1, "∫∫ ∫∫∫"), (0x222F, 1, "∮∮ ∮∮∮"),
   (0x2329, 1, "〈 〉"),
   (0x2460, 1, "1 2 3 4 5 6 7 8 9 10 11 12 13 14 15 16 17 18 19 20 (1) (2) (3) (4) (5) (6) (7) " ++
    "(8) (9) (10) (11) (12) (13) (14) (15) (16) (17) (18) (19) (20)"),

   (0x249C, 1, "(a) (b) (c) (d) (e) (f) (g) (h) (i) (j) (k) (l) (m) (n) (o) (p) (q) (r) (s) (t) " ++
    "(u) (v) (w) (x) (y) (z) a b c d e f g h i j k l m n o p q r s t u v w x y z a b c d e f g " ++
    "h i j k l m n o p q r s t u v w x y z 0"),
   (0x2A0C, 1, "∫∫∫∫"), (0x2A75, 1, "== ==="), (0x2ADC, 1, "⫝\u0338"),
   (0x2C00, 1, "ⰰ ⰱ ⰲ ⰳ ⰴ ⰵ ⰶ ⰷ ⰸ ⰹ ⰺ ⰻ ⰼ ⰽ ⰾ ⰿ ⱀ ⱁ ⱂ ⱃ ⱄ ⱅ ⱆ ⱇ ⱈ ⱉ ⱊ ⱋ ⱌ ⱍ ⱎ ⱏ ⱐ ⱑ ⱒ ⱓ ⱔ ⱕ ⱖ ⱗ ⱘ " ++
    "ⱙ ⱚ ⱛ ⱜ ⱝ ⱞ ⱟ"),
   (0x2C60, 1, "ⱡ"), (0x2C62, 1, "ɫ ᵽ ɽ"), (0x2C67, 2, "ⱨ ⱪ ⱬ"), (0x2C6D, 1, "ɑ ɱ ɐ ɒ"),
   (0x2C72, 1, "ⱳ"), (0x2C75, 1, "ⱶ"), (0x2C7C, 1, "j v ȿ ɀ ⲁ"),
   (0x2C82, 2, "ⲃ ⲅ ⲇ ⲉ ⲋ ⲍ ⲏ ⲑ ⲓ ⲕ ⲗ ⲙ ⲛ ⲝ ⲟ ⲡ ⲣ ⲥ ⲧ ⲩ ⲫ ⲭ ⲯ ⲱ ⲳ ⲵ ⲷ ⲹ ⲻ ⲽ ⲿ ⳁ ⳃ ⳅ ⳇ ⳉ ⳋ ⳍ ⳏ ⳑ ⳓ " ++
    "ⳕ ⳗ ⳙ ⳛ ⳝ ⳟ ⳡ ⳣ"),
   (0x2CEB, 2, "ⳬ ⳮ"), (0x2CF2, 1, "ⳳ"), (0x2D6F, 1, "ⵡ"), (0x2E9F, 1, "母"), (0x2EF3, 1, "龟"),
   (0x2F00, 1, "一 丨 丶 丿 乙 亅 二 亠 人 儿 入 八 冂 冖 冫 几 凵 刀 力 勹 匕 匚 匸 十 卜 卩 厂 厶 又 口 囗 土 士 夂 夊 夕 大 女 子 宀 寸 " ++
    "小 尢 尸 屮 山 巛 工 己 巾 干 幺 广 廴 廾 弋 弓 彐 彡 彳 心 戈 戶 手 支 攴 文 斗 斤 方 无 日 曰 月 木 欠 止 歹 殳 毋 比 毛 氏 气 水 火 " ++
    "爪 父 爻 爿 片 牙 牛 犬 玄 玉 瓜 瓦 甘 生 用 田 疋 疒 癶 白 皮 皿 目 矛 矢 石 示 禸 禾 穴 立 竹 米 糸 缶 网 羊 羽 老 而 耒 耳 聿 肉 臣 " ++
    "自 至 臼 舌 舛 舟 艮 色 艸 虍 虫 血 行 衣 襾 見 角 言 谷 豆 豕 豸 貝 赤 走 足 身 車 辛 辰 辵 邑 酉 釆 里 金 長 門 阜 隶 隹 雨 靑 非 面 " ++
    "革 韋 韭 音 頁 風 飛 食 首 香 馬 骨 高 髟 鬥 鬯 鬲 鬼 魚 鳥 鹵 鹿 麥 麻 黃 黍 黑 黹 黽 鼎 鼓 鼠 鼻 齊 齒 龍 龜 龠"),
   (0x3002, 1, "."), (0x3036, 1, "〒"), (0x3038, 1, "十 卄 卅"), (0x309F, 1, "より"), (0x30FF, 1, "コト"),
   (0x3131, 1, "\u1100 \u1101 \u11aa \u1102 \u11ac \u11ad \u1103 \u1104 \u1105 \u11b0 \u11b1 " ++
    "\u11b2 \u11b3 \u11b4 \u11b5 \u111a \u1106 \u1107 \u1108 \u1121 \u1109 \u110a \u110b " ++
    "\u110c \u110d \u110e \u110f \u1110 \u1111 \u1112 \u1161 \u1162 \u1163 \u1164 \u1165 " ++
    "\u1166 \u1167 \u1168 \u1169 \u116a \u116b \u116c \u116d \u116e \u116f \u1170 \u1171 " ++
    "\u1172 \u1173 \u1174 \u1175"),

   (0x3165, 1, "\u1114 \u1115 \u11c7 \u11c8 \u11cc \u11ce \u11d3 \u11d7 \u11d9 \u111c \u11dd " ++
    "\u11df \u111d \u111e \u1120 \u1122 \u1123 \u1127 \u1129 \u112b \u112c \u112d \u112e " ++
    "\u112f \u1132 \u1136 \u1140 \u1147 \u114c \u11f1 \u11f2 \u1157 \u1158 \u1159 \u1184 " ++
    "\u1185 \u1188 \u1191 \u1192 \u1194 \u119e \u11a1"),
   (0x3192, 1, "一 二 三 四 上 中 下 甲 乙 丙 丁 天 地 人"),
   (0x3200, 1, "(\u1100) (\u1102) (\u1103) (\u1105) (\u1106) (\u1107) (\u1109) (\u110b) (\u110c) " ++
    "(\u110e) (\u110f) (\u1110) (\u1111) (\u1112) (가) (나) (다) (라) (마) (바) (사) (아) (자) (차) (카) " ++
    "(타) (파) (하) (주) (오전) (오후)"),

   (0x3220, 1, "(一) (二) (三) (四) (五) (六) (七) (八) (九) (十) (月) (火) (水) (木) (金) (土) (日) (株) (有) (社) " ++
    "(名) (特) (財) (祝) (労) (代) (呼) (学) (監) (企) (資) (協) (祭) (休) (自) (至) 問 幼 文 箏"),

   (0x3250, 1, "pte 21 22 23 24 25 26 27 28 29 30 31 32 33 34 35 \u1100 \u1102 \u1103 \u1105 " ++
    "\u1106 \u1107 \u1109 \u110b \u110c \u110e \u110f \u1110 \u1111 \u1112 가 나 다 라 마 바 사 아 자 차 " ++
    "카 타 파 하 참고 주의 우"),

   (0x3280, 1, "一 二 三 四 五 六 七 八 九 十 月 火 水 木 金 土 日 株 有 社 名 特 財 祝 労 秘 男 女 適 優 印 注 項 休 写 正 上 中 下 左 右 " ++
    "医 宗 学 監 企 資 協 夜 36 37 38 39 40 41 42 43 44 45 46 47 48 49 50 1月 2月 3月 4月 5月 6月 7月 8月 9月 " ++
    "10月 11月 12月 hg erg ev ltd ア イ ウ エ オ カ キ ク ケ コ サ シ ス セ ソ タ チ ツ テ ト ナ ニ ヌ ネ ノ ハ ヒ フ ヘ ホ マ ミ " ++
    "ム メ モ ヤ ユ ヨ ラ リ ル レ ロ ワ ヰ ヱ ヲ 令和 アパート アルファ アンペア アール イニング インチ ウォン エスクード エーカー オンス オーム カイリ " ++
    "カラット カロリー ガロン ガンマ ギガ ギニー キュリー ギルダー キロ キログラム キロメートル キロワット グラム グラムトン クルゼイロ クローネ ケース コルナ コーポ " ++
    "サイクル サンチーム シリング センチ セント ダース デシ ドル トン ナノ ノット ハイツ パーセント パーツ バーレル ピアストル ピクル ピコ ビル ファラッド フィート " ++
    "ブッシェル フラン ヘクタール ペソ ペニヒ ヘルツ ペンス ページ ベータ ポイント ボルト ホン ポンド ホール ホーン マイクロ マイル マッハ マルク マンション " ++
    "ミクロン ミリ ミリバール メガ メガトン メートル ヤード ヤール ユアン リットル リラ ルピー ルーブル レム レントゲン ワット 0点 1点 2点 3点 4点 5点 6点 " ++
    "7点 8点 9点 10点 11点 12点 13点 14点 15点 16点 17点 18点 19点 20点 21点 22点 23点 24点 hpa da au bar ov pc " ++
    "dm dm2 dm3 iu 平成 昭和 大正 明治 株式会社 pa na μa ma ka kb mb gb cal kcal pf nf μf μg mg kg hz khz " ++
    "mhz ghz thz μl ml dl kl fm nm μm mm cm km mm2 cm2 m2 km2 mm3 cm3 m3 km3 m∕s m∕s2 pa kpa " ++
    "mpa gpa rad rad∕s rad∕s2 ps ns μs ms pv nv μv mv kv mv pw nw μw mw kw mw kω mω"),
   (0x33C3, 1, "bq cc cd c∕kg"),
   (0x33C8, 1, "db gy ha hp in kk km kt lm ln log lx mb mil mol ph"),
   (0x33D9, 1, "ppm pr sr sv wb v∕m a∕m 1日 2日 3日 4日 5日 6日 7日 8日 9日 10日 11日 12日 13日 14日 15日 16日 " ++
    "17日 18日 19日 20日 21日 22日 23日 24日 25日 26日 27日 28日 29日 30日 31日 gal"),
   (0xA640, 2, "ꙁ ꙃ ꙅ ꙇ ꙉ ꙋ ꙍ ꙏ ꙑ ꙓ ꙕ ꙗ ꙙ ꙛ ꙝ ꙟ ꙡ ꙣ ꙥ ꙧ ꙩ ꙫ ꙭ"),
   (0xA680, 2, "ꚁ ꚃ ꚅ ꚇ ꚉ ꚋ ꚍ ꚏ ꚑ ꚓ ꚕ ꚗ ꚙ ꚛ"), (0xA69C, 1, "ъ ь"), (0xA722, 2, "ꜣ ꜥ ꜧ ꜩ ꜫ ꜭ ꜯ"),
   (0xA732, 2, "ꜳ ꜵ ꜷ ꜹ ꜻ ꜽ ꜿ ꝁ ꝃ ꝅ ꝇ ꝉ ꝋ ꝍ ꝏ ꝑ ꝓ ꝕ ꝗ ꝙ ꝛ ꝝ ꝟ ꝡ ꝣ ꝥ ꝧ ꝩ ꝫ ꝭ ꝯ ꝯ"),
   (0xA779, 2, "ꝺ ꝼ"), (0xA77D, 1, "ᵹ ꝿ"), (0xA780, 2, "ꞁ ꞃ ꞅ ꞇ"), (0xA78B, 2, "ꞌ ɥ"),
   (0xA790, 2, "ꞑ ꞓ"), (0xA796, 2, "ꞗ ꞙ ꞛ ꞝ ꞟ ꞡ ꞣ ꞥ ꞧ ꞩ"), (0xA7AA, 1, "ɦ ɜ ɡ ɬ ɪ"),
   (0xA7B0, 1, "ʞ ʇ ʝ ꭓ ꞵ"), (0xA7B6, 2, "ꞷ ꞹ ꞻ ꞽ ꞿ ꟁ ꟃ"), (0xA7C4, 1, "ꞔ ʂ ᶎ ꟈ"),
   (0xA7C9, 1, "ꟊ"), (0xA7CB, 1, "ɤ \ua7cd"), (0xA7CE, 2, "\ua7cf ꟑ ꟓ ꟕ ꟗ ꟙ \ua7db ƛ"),
   (0xA7F1, 1, "s c f q ꟶ"), (0xA7F8, 1, "ħ œ"), (0xAB5C, 1, "ꜧ ꬷ ɫ ꭒ"), (0xAB69, 1, "ʍ"),
   (0xAB70, 1, "Ꭰ Ꭱ Ꭲ Ꭳ Ꭴ Ꭵ Ꭶ Ꭷ Ꭸ Ꭹ Ꭺ Ꭻ Ꭼ Ꭽ Ꭾ Ꭿ Ꮀ Ꮁ Ꮂ Ꮃ Ꮄ Ꮅ Ꮆ Ꮇ Ꮈ Ꮉ Ꮊ Ꮋ Ꮌ Ꮍ Ꮎ Ꮏ Ꮐ Ꮑ Ꮒ Ꮓ Ꮔ Ꮕ Ꮖ Ꮗ Ꮘ " ++
    "Ꮙ Ꮚ Ꮛ Ꮜ Ꮝ Ꮞ Ꮟ Ꮠ Ꮡ Ꮢ Ꮣ Ꮤ Ꮥ Ꮦ Ꮧ Ꮨ Ꮩ Ꮪ Ꮫ Ꮬ Ꮭ Ꮮ Ꮯ Ꮰ Ꮱ Ꮲ Ꮳ Ꮴ Ꮵ Ꮶ Ꮷ Ꮸ Ꮹ Ꮺ Ꮻ Ꮼ Ꮽ Ꮾ Ꮿ"),

   (0xF900, 1, "豈 更 車 賈 滑 串 句 龜 龜 契 金 喇 奈 懶 癩 羅 蘿 螺 裸 邏 樂 洛 烙 珞 落 酪 駱 亂 卵 欄 爛 蘭 鸞 嵐 濫 藍 襤 拉 臘 蠟 廊 " ++
    "朗 浪 狼 郎 來 冷 勞 擄 櫓 爐 盧 老 蘆 虜 路 露 魯 鷺 碌 祿 綠 菉 錄 鹿 論 壟 弄 籠 聾 牢 磊 賂 雷 壘 屢 樓 淚 漏 累 縷 陋 勒 肋 凜 凌 " ++
    "稜 綾 菱 陵 讀 拏 樂 諾 丹 寧 怒 率 異 北 磻 便 復 不 泌 數 索 參 塞 省 葉 說 殺 辰 沈 拾 若 掠 略 亮 兩 凉 梁 糧 良 諒 量 勵 呂 女 廬 " ++
    "旅 濾 礪 閭 驪 麗 黎 力 曆 歷 轢 年 憐 戀 撚 漣 煉 璉 秊 練 聯 輦 蓮 連 鍊 列 劣 咽 烈 裂 說 廉 念 捻 殮 簾 獵 令 囹 寧 嶺 怜 玲 瑩 羚 " ++
    "聆 鈴 零 靈 領 例 禮 醴 隸 惡 了 僚 寮 尿 料 樂 燎 療 蓼 遼 龍 暈 阮 劉 杻 柳 流 溜 琉 留 硫 紐 類 六 戮 陸 倫 崙 淪 輪 律 慄 栗 率 隆 " ++
    "利 吏 履 易 李 梨 泥 理 痢 罹 裏 裡 里 離 匿 溺 吝 燐 璘 藺 隣 鱗 麟 林 淋 臨 立 笠 粒 狀 炙 識 什 茶 刺 切 度 拓 糖 宅 洞 暴 輻 行 降 " ++
    "見 廓 兀 嗀"),
   (0xFA10, 2, "塚 晴"), (0xFA15, 1, "凞 猪 益 礼 神 祥 福 靖 精 羽"), (0xFA20, 2, "蘒 諸"), (0xFA25, 1, "逸 都"),
   (0xFA2A, 1, "飯 飼 館 鶴 郞 隷 侮 僧 免 勉 勤 卑 喝 嘆 器 塀 墨 層 屮 悔 慨 憎 懲 敏 既 暑 梅 海 渚 漢 煮 爫 琢 碑 社 祉 祈 祐 祖 祝 禍 " ++
    "禎 穀 突 節 練 縉 繁 署 者 臭 艹 艹 著 褐 視 謁 謹 賓 贈 辶 逸 難 響 頻 恵 𤋮 舘"),

   (0xFA70, 1, "並 况 全 侀 充 冀 勇 勺 喝 啕 喙 嗢 塚 墳 奄 奔 婢 嬨 廒 廙 彩 徭 惘 慎 愈 憎 慠 懲 戴 揄 搜 摒 敖 晴 朗 望 杖 歹 殺 流 滛 " ++
    "滋 漢 瀞 煮 瞧 爵 犯 猪 瑱 甆 画 瘝 瘟 益 盛 直 睊 着 磌 窱 節 类 絛 練 缾 者 荒 華 蝹 襁 覆 視 調 諸 請 謁 諾 諭 謹 變 贈 輸 遲 醙 鉶 " ++
    "陼 難 靖 韛 響 頋 頻 鬒 龜 𢡊 𢡄 𣏕 㮝 䀘 䀹 𥉉 𥳐 𧻓 齃 龎"),
   (0xFB00, 1, "ff fi fl ffi ffl st st"), (0xFB13, 1, "մն մե մի վն մխ"),
   (0xFB1D, 1, "\u05d9\u05b4"),
   (0xFB1F, 1, "\u05f2\u05b7 \u05e2 \u05d0 \u05d3 \u05d4 \u05db \u05dc \u05dd \u05e8 \u05ea + " ++
    "\u05e9\u05c1 \u05e9\u05c2 \u05e9\u05bc\u05c1 \u05e9\u05bc\u05c2 \u05d0\u05b7 \u05d0\u05b8 " ++
    "\u05d0\u05bc \u05d1\u05bc \u05d2\u05bc \u05d3\u05bc \u05d4\u05bc \u05d5\u05bc \u05d6\u05bc"),
   (0xFB38, 1, "\u05d8\u05bc \u05d9\u05bc \u05da\u05bc \u05db\u05bc \u05dc\u05bc"),
   (0xFB3E, 1, "\u05de\u05bc"), (0xFB40, 1, "\u05e0\u05bc \u05e1\u05bc"),
   (0xFB43, 1, "\u05e3\u05bc \u05e4\u05bc"),
   (0xFB46, 1, "\u05e6\u05bc \u05e7\u05bc \u05e8\u05bc \u05e9\u05bc \u05ea\u05bc \u05d5\u05b9 " ++
    "\u05d1\u05bf \u05db\u05bf \u05e4\u05bf \u05d0\u05dc \u0671 \u0671 \u067b \u067b \u067b " ++
    "\u067b \u067e \u067e \u067e \u067e \u0680 \u0680 \u0680 \u0680 \u067a \u067a \u067a " ++
    "\u067a \u067f \u067f \u067f \u067f \u0679 \u0679 \u0679 \u0679 \u06a4 \u06a4 \u06a4 " ++
    "\u06a4 \u06a6 \u06a6 \u06a6 \u06a6 \u0684 \u0684 \u0684 \u0684 \u0683 \u0683 \u0683 " ++
    "\u0683 \u0686 \u0686 \u0686 \u0686 \u0687 \u0687 \u0687 \u0687 \u068d \u068d \u068c " ++
    "\u068c \u068e \u068e \u0688 \u0688 \u0698 \u0698 \u0691 \u0691 \u06a9 \u06a9 \u06a9 " ++
    "\u06a9 \u06af \u06af \u06af \u06af \u06b3 \u06b3 \u06b3 \u06b3 \u06b1 \u06b1 \u06b1 " ++
    "\u06b1 \u06ba \u06ba \u06bb \u06bb \u06bb \u06bb \u06c0 \u06c0 \u06c1 \u06c1 \u06c1 " ++
    "\u06c1 \u06be \u06be \u06be \u06be \u06d2 \u06d2 \u06d3 \u06d3"),

   (0xFBD3, 1, "\u06ad \u06ad \u06ad \u06ad \u06c7 \u06c7 \u06c6 \u06c6 \u06c8 \u06c8 " ++
    "\u06c7\u0674 \u06cb \u06cb \u06c5 \u06c5 \u06c9 \u06c9 \u06d0 \u06d0 \u06d0 \u06d0 \u0649 " ++
    "\u0649 \u0626\u0627 \u0626\u0627 \u0626\u06d5 \u0626\u06d5 \u0626\u0648 \u0626\u0648 " ++
    "\u0626\u06c7 \u0626\u06c7 \u0626\u06c6 \u0626\u06c6 \u0626\u06c8 \u0626\u06c8 " ++
    "\u0626\u06d0 \u0626\u06d0 \u0626\u06d0 \u0626\u0649 \u0626\u0649 \u0626\u0649 \u06cc " ++
    "\u06cc \u06cc \u06cc \u0626\u062c \u0626\u062d \u0626\u0645 \u0626\u0649 \u0626\u064a " ++
    "\u0628\u062c \u0628\u062d \u0628\u062e \u0628\u0645 \u0628\u0649 \u0628\u064a " ++
    "\u062a\u062c \u062a\u062d \u062a\u062e \u062a\u0645 \u062a\u0649 \u062a\u064a " ++
    "\u062b\u062c \u062b\u0645 \u062b\u0649 \u062b\u064a \u062c\u062d \u062c\u0645 " ++
    "\u062d\u062c \u062d\u0645 \u062e\u062c \u062e\u062d \u062e\u0645 \u0633\u062c " ++
    "\u0633\u062d \u0633\u062e \u0633\u0645 \u0635\u062d \u0635\u0645 \u0636\u062c " ++
    "\u0636\u062d \u0636\u062e \u0636\u0645 \u0637\u062d \u0637\u0645 \u0638\u0645 " ++
    "\u0639\u062c \u0639\u0645 \u063a\u062c \u063a\u0645 \u0641\u062c \u0641\u062d " ++
    "\u0641\u062e \u0641\u0645 \u0641\u0649 \u0641\u064a \u0642\u062d \u0642\u0645 " ++
    "\u0642\u0649 \u0642\u064a \u0643\u0627 \u0643\u062c \u0643\u062d \u0643\u062e " ++
    "\u0643\u0644 \u0643\u0645 \u0643\u0649 \u0643\u064a \u0644\u062c \u0644\u062d " ++
    "\u0644\u062e \u0644\u0645 \u0644\u0649 \u0644\u064a \u0645\u062c \u0645\u062d " ++
    "\u0645\u062e \u0645\u0645 \u0645\u0649 \u0645\u064a \u0646\u062c \u0646\u062d " ++
    "\u0646\u062e \u0646\u0645 \u0646\u0649 \u0646\u064a \u0647\u062c \u0647\u0645 " ++
    "\u0647\u0649 \u0647\u064a \u064a\u062c \u064a\u062d \u064a\u062e \u064a\u0645 " ++
    "\u064a\u0649 \u064a\u064a \u0630\u0670 \u0631\u0670 \u0649\u0670"),

   (0xFC64, 1, "\u0626\u0631 \u0626\u0632 \u0626\u0645 \u0626\u0646 \u0626\u0649 \u0626\u064a " ++
    "\u0628\u0631 \u0628\u0632 \u0628\u0645 \u0628\u0646 \u0628\u0649 \u0628\u064a " ++
    "\u062a\u0631 \u062a\u0632 \u062a\u0645 \u062a\u0646 \u062a\u0649 \u062a\u064a " ++
    "\u062b\u0631 \u062b\u0632 \u062b\u0645 \u062b\u0646 \u062b\u0649 \u062b\u064a " ++
    "\u0641\u0649 \u0641\u064a \u0642\u0649 \u0642\u064a \u0643\u0627 \u0643\u0644 " ++
    "\u0643\u0645 \u0643\u0649 \u0643\u064a \u0644\u0645 \u0644\u0649 \u0644\u064a " ++
    "\u0645\u0627 \u0645\u0645 \u0646\u0631 \u0646\u0632 \u0646\u0645 \u0646\u0646 " ++
    "\u0646\u0649 \u0646\u064a \u0649\u0670 \u064a\u0631 \u064a\u0632 \u064a\u0645 " ++
    "\u064a\u0646 \u064a\u0649 \u064a\u064a \u0626\u062c \u0626\u062d \u0626\u062e " ++
    "\u0626\u0645 \u0626\u0647 \u0628\u062c \u0628\u062d \u0628\u062e \u0628\u0645 " ++
    "\u0628\u0647 \u062a\u062c \u062a\u062d \u062a\u062e \u062a\u0645 \u062a\u0647 " ++
    "\u062b\u0645 \u062c\u062d \u062c\u0645 \u062d\u062c \u062d\u0645 \u062e\u062c " ++
    "\u062e\u0645 \u0633\u062c \u0633\u062d \u0633\u062e \u0633\u0645 \u0635\u062d " ++
    "\u0635\u062e \u0635\u0645 \u0636\u062c \u0636\u062d \u0636\u062e \u0636\u0645 " ++
    "\u0637\u062d \u0638\u0645 \u0639\u062c \u0639\u0645 \u063a\u062c \u063a\u0645 " ++
    "\u0641\u062c \u0641\u062d \u0641\u062e \u0641\u0645 \u0642\u062d \u0642\u0645 " ++
    "\u0643\u062c \u0643\u062d \u0643\u062e \u0643\u0644 \u0643\u0645 \u0644\u062c " ++
    "\u0644\u062d \u0644\u062e \u0644\u0645 \u0644\u0647 \u0645\u062c \u0645\u062d " ++
    "\u0645\u062e \u0645\u0645 \u0646\u062c \u0646\u062d \u0646\u062e \u0646\u0645 " ++
    "\u0646\u0647 \u0647\u062c \u0647\u0645 \u0647\u0670 \u064a\u062c \u064a\u062d " ++
    "\u064a\u062e \u064a\u0645 \u064a\u0647 \u0626\u0645 \u0626\u0647 \u0628\u0645 " ++
    "\u0628\u0647 \u062a\u0645 \u062a\u0647 \u062b\u0645 \u062b\u0647 \u0633\u0645 " ++
    "\u0633\u0647 \u0634\u0645 \u0634\u0647 \u0643\u0644 \u0643\u0645 \u0644\u0645 " ++
    "\u0646\u0645 \u0646\u0647 \u064a\u0645 \u064a\u0647 \u0640\u064e\u0651 \u0640\u064f\u0651 " ++
    "\u0640\u0650\u0651 \u0637\u0649 \u0637\u064a \u0639\u0649 \u0639\u064a \u063a\u0649 " ++
    "\u063a\u064a \u0633\u0649 \u0633\u064a \u0634\u0649 \u0634\u064a \u062d\u0649 " ++
    "\u062d\u064a \u062c\u0649 \u062c\u064a \u062e\u0649 \u062e\u064a \u0635\u0649 " ++
    "\u0635\u064a \u0636\u0649 \u0636\u064a \u0634\u062c \u0634\u062d \u0634\u062e " ++
    "\u0634\u0645 \u0634\u0631 \u0633\u0631 \u0635\u0631 \u0636\u0631 \u0637\u0649 " ++
    "\u0637\u064a \u0639\u0649 \u0639\u064a \u063a\u0649 \u063a\u064a \u0633\u0649 " ++
    "\u0633\u064a \u0634\u0649 \u0634\u064a \u062d\u0649 \u062d\u064a \u062c\u0649 " ++
    "\u062c\u064a \u062e\u0649 \u062e\u064a \u0635\u0649 \u0635\u064a \u0636\u0649 " ++
    "\u0636\u064a \u0634\u062c \u0634\u062d \u0634\u062e \u0634\u0645 \u0634\u0631 " ++
    "\u0633\u0631 \u0635\u0631 \u0636\u0631 \u0634\u062c \u0634\u062d \u0634\u062e " ++
    "\u0634\u0645 \u0633\u0647 \u0634\u0647 \u0637\u0645 \u0633\u062c \u0633\u062d " ++
    "\u0633\u062e \u0634\u062c \u0634\u062d \u0634\u062e \u0637\u0645 \u0638\u0645 " ++
    "\u0627\u064b \u0627\u064b"),

   (0xFD50, 1, "\u062a\u062c\u0645 \u062a\u062d\u062c \u062a\u062d\u062c \u062a\u062d\u0645 " ++
    "\u062a\u062e\u0645 \u062a\u0645\u062c \u062a\u0645\u062d \u062a\u0645\u062e " ++
    "\u062c\u0645\u062d \u062c\u0645\u062d \u062d\u0645\u064a \u062d\u0645\u0649 " ++
    "\u0633\u062d\u062c \u0633\u062c\u062d \u0633\u062c\u0649 \u0633\u0645\u062d " ++
    "\u0633\u0645\u062d \u0633\u0645\u062c \u0633\u0645\u0645 \u0633\u0645\u0645 " ++
    "\u0635\u062d\u062d \u0635\u062d\u062d \u0635\u0645\u0645 \u0634\u062d\u0645 " ++
    "\u0634\u062d\u0645 \u0634\u062c\u064a \u0634\u0645\u062e \u0634\u0645\u062e " ++
    "\u0634\u0645\u0645 \u0634\u0645\u0645 \u0636\u062d\u0649 \u0636\u062e\u0645 " ++
    "\u0636\u062e\u0645 \u0637\u0645\u062d \u0637\u0645\u062d \u0637\u0645\u0645 " ++
    "\u0637\u0645\u064a \u0639\u062c\u0645 \u0639\u0645\u0645 \u0639\u0645\u0645 " ++
    "\u0639\u0645\u0649 \u063a\u0645\u0645 \u063a\u0645\u064a \u063a\u0645\u0649 " ++
    "\u0641\u062e\u0645 \u0641\u062e\u0645 \u0642\u0645\u062d \u0642\u0645\u0645 " ++
    "\u0644\u062d\u0645 \u0644\u062d\u064a \u0644\u062d\u0649 \u0644\u062c\u062c " ++
    "\u0644\u062c\u062c \u0644\u062e\u0645 \u0644\u062e\u0645 \u0644\u0645\u062d " ++
    "\u0644\u0645\u062d \u0645\u062d\u062c \u0645\u062d\u0645 \u0645\u062d\u064a " ++
    "\u0645\u062c\u062d \u0645\u062c\u0645 \u0645\u062e\u062c \u0645\u062e\u0645"),

   (0xFD92, 1, "\u0645\u062c\u062e \u0647\u0645\u062c \u0647\u0645\u0645 \u0646\u062d\u0645 " ++
    "\u0646\u062d\u0649 \u0646\u062c\u0645 \u0646\u062c\u0645 \u0646\u062c\u0649 " ++
    "\u0646\u0645\u064a \u0646\u0645\u0649 \u064a\u0645\u0645 \u064a\u0645\u0645 " ++
    "\u0628\u062e\u064a \u062a\u062c\u064a \u062a\u062c\u0649 \u062a\u062e\u064a " ++
    "\u062a\u062e\u0649 \u062a\u0645\u064a \u062a\u0645\u0649 \u062c\u0645\u064a " ++
    "\u062c\u062d\u0649 \u062c\u0645\u0649 \u0633\u062e\u0649 \u0635\u062d\u064a " ++
    "\u0634\u062d\u064a \u0636\u062d\u064a \u0644\u062c\u064a \u0644\u0645\u064a " ++
    "\u064a\u062d\u064a \u064a\u062c\u064a \u064a\u0645\u064a \u0645\u0645\u064a " ++
    "\u0642\u0645\u064a \u0646\u062d\u064a \u0642\u0645\u062d \u0644\u062d\u0645 " ++
    "\u0639\u0645\u064a \u0643\u0645\u064a \u0646\u062c\u062d \u0645\u062e\u064a " ++
    "\u0644\u062c\u0645 \u0643\u0645\u0645 \u0644\u062c\u0645 \u0646\u062c\u062d " ++
    "\u062c\u062d\u064a \u062d\u062c\u064a \u0645\u062c\u064a \u0641\u0645\u064a " ++
    "\u0628\u062d\u064a \u0643\u0645\u0645 \u0639\u062c\u0645 \u0635\u0645\u0645 " ++
    "\u0633\u062e\u064a \u0646\u062c\u064a"),

   (0xFDF0, 1, "\u0635\u0644\u06d2 \u0642\u0644\u06d2 \u0627\u0644\u0644\u0647 " ++
    "\u0627\u0643\u0628\u0631 \u0645\u062d\u0645\u062f \u0635\u0644\u0639\u0645 " ++
    "\u0631\u0633\u0648\u0644 \u0639\u0644\u064a\u0647 \u0648\u0633\u0644\u0645 " ++
    "\u0635\u0644\u0649"),
   (0xFDFC, 1, "\u0631\u06cc\u0627\u0644"), (0xFE10, 1, ", 、"), (0xFE14, 1, "; !"),
   (0xFE17, 1, "〖 〗"), (0xFE31, 1, "— – _ _ ( ) \x7b \x7d 〔 〕 【 】 《 》 〈 〉 「 」 『 』"),
   (0xFE4D, 1, "_ _ _ , 、"), (0xFE54, 1, ";"), (0xFE57, 1, "! — ( ) \x7b \x7d 〔 〕"),
   (0xFE60, 1, "& * + - < > ="), (0xFE69, 1, "$"), (0xFE71, 1, "\u0640\u064b"),
   (0xFE77, 2, "\u0640\u064e \u0640\u064f \u0640\u0650 \u0640\u0651"),
   (0xFE7F, 1, "\u0640\u0652 \u0621 \u0622 \u0622 \u0623 \u0623 \u0624 \u0624 \u0625 \u0625 " ++
    "\u0626 \u0626 \u0626 \u0626 \u0627 \u0627 \u0628 \u0628 \u0628 \u0628 \u0629 \u0629 " ++
    "\u062a \u062a \u062a \u062a \u062b \u062b \u062b \u062b \u062c \u062c \u062c \u062c " ++
    "\u062d \u062d \u062d \u062d \u062e \u062e \u062e \u062e \u062f \u062f \u0630 \u0630 " ++
    "\u0631 \u0631 \u0632 \u0632 \u0633 \u0633 \u0633 \u0633 \u0634 \u0634 \u0634 \u0634 " ++
    "\u0635 \u0635 \u0635 \u0635 \u0636 \u0636 \u0636 \u0636 \u0637 \u0637 \u0637 \u0637 " ++
    "\u0638 \u0638 \u0638 \u0638 \u0639 \u0639 \u0639 \u0639 \u063a \u063a \u063a \u063a " ++
    "\u0641 \u0641 \u0641 \u0641 \u0642 \u0642 \u0642 \u0642 \u0643 \u0643 \u0643 \u0643 " ++
    "\u0644 \u0644 \u0644 \u0644 \u0645 \u0645 \u0645 \u0645 \u0646 \u0646 \u0646 \u0646 " ++
    "\u0647 \u0647 \u0647 \u0647 \u0648 \u0648 \u0649 \u0649 \u064a \u064a \u064a \u064a " ++
    "\u0644\u0622 \u0644\u0622 \u0644\u0623 \u0644\u0623 \u0644\u0625 \u0644\u0625 " ++
    "\u0644\u0627 \u0644\u0627"),
   (0xFF01, 1, "! \""), (0xFF04, 1, "$"), (0xFF06, 1, "& ' ( ) * + , - ."),
   (0xFF10, 1, "0 1 2 3 4 5 6 7 8 9"), (0xFF1B, 1, "; < = >"),
   (0xFF21, 1, "a b c d e f g h i j k l m n o p q r s t u v w x y z"),
   (0xFF3F, 1, "_ \x60 a b c d e f g h i j k l m n o p q r s t u v w x y z \x7b"),
   (0xFF5D, 1, "\x7d ~ ⦅ ⦆ . 「 」 、 ・ ヲ ァ ィ ゥ ェ ォ ャ ュ ョ ッ ー ア イ ウ エ オ カ キ ク ケ コ サ シ ス セ ソ タ チ ツ テ " ++
    "ト ナ ニ ヌ ネ ノ ハ ヒ フ ヘ ホ マ ミ ム メ モ ヤ ユ ヨ ラ リ ル レ ロ ワ ン \u3099 \u309a"),

   (0xFFA1, 1, "\u1100 \u1101 \u11aa \u1102 \u11ac \u11ad \u1103 \u1104 \u1105 \u11b0 \u11b1 " ++
    "\u11b2 \u11b3 \u11b4 \u11b5 \u111a \u1106 \u1107 \u1108 \u1121 \u1109 \u110a \u110b " ++
    "\u110c \u110d \u110e \u110f \u1110 \u1111 \u1112"),
   (0xFFC2, 1, "\u1161 \u1162 \u1163 \u1164 \u1165 \u1166"),
   (0xFFCA, 1, "\u1167 \u1168 \u1169 \u116a \u116b \u116c"),
   (0xFFD2, 1, "\u116d \u116e \u116f \u1170 \u1171 \u1172"), (0xFFDA, 1, "\u1173 \u1174 \u1175"),
   (0xFFE0, 1, "¢ £ ¬"), (0xFFE4, 1, "¦ ¥ ₩"), (0xFFE8, 1, "│ ← ↑ → ↓ ■ ○"),
   (0x10400, 1, "𐐨 𐐩 𐐪 𐐫 𐐬 𐐭 𐐮 𐐯 𐐰 𐐱 𐐲 𐐳 𐐴 𐐵 𐐶 𐐷 𐐸 𐐹 𐐺 𐐻 𐐼 𐐽 𐐾 𐐿 𐑀 𐑁 𐑂 𐑃 𐑄 𐑅 𐑆 𐑇 𐑈 𐑉 𐑊 𐑋 𐑌 𐑍 𐑎 𐑏"),
   (0x104B0, 1, "𐓘 𐓙 𐓚 𐓛 𐓜 𐓝 𐓞 𐓟 𐓠 𐓡 𐓢 𐓣 𐓤 𐓥 𐓦 𐓧 𐓨 𐓩 𐓪 𐓫 𐓬 𐓭 𐓮 𐓯 𐓰 𐓱 𐓲 𐓳 𐓴 𐓵 𐓶 𐓷 𐓸 𐓹 𐓺 𐓻"),
   (0x10570, 1, "𐖗 𐖘 𐖙 𐖚 𐖛 𐖜 𐖝 𐖞 𐖟 𐖠 𐖡"), (0x1057C, 1, "𐖣 𐖤 𐖥 𐖦 𐖧 𐖨 𐖩 𐖪 𐖫 𐖬 𐖭 𐖮 𐖯 𐖰 𐖱"),
   (0x1058C, 1, "𐖳 𐖴 𐖵 𐖶 𐖷 𐖸 𐖹"), (0x10594, 1, "𐖻 𐖼"), (0x10781, 1, "ː ˑ æ ʙ ɓ"),
   (0x10787, 1, "ʣ ꭦ ʥ ʤ ɖ ɗ ᶑ ɘ ɞ ʩ ɤ ɢ ɠ ʛ ħ ʜ ɧ ʄ ʪ ʫ ɬ 𝼄 ꞎ ɮ 𝼅 ʎ 𝼆 ø ɶ ɷ q ɺ 𝼈 ɽ ɾ ʀ ʨ ʦ ꭧ ʧ " ++
    "ʈ ⱱ"),
   (0x107B2, 1, "ʏ ʡ ʢ ʘ ǀ ǁ ǂ 𝼊 𝼞"),
   (0x10C80, 1, "𐳀 𐳁 𐳂 𐳃 𐳄 𐳅 𐳆 𐳇 𐳈 𐳉 𐳊 𐳋 𐳌 𐳍 𐳎 𐳏 𐳐 𐳑 𐳒 𐳓 𐳔 𐳕 𐳖 𐳗 𐳘 𐳙 𐳚 𐳛 𐳜 𐳝 𐳞 𐳟 𐳠 𐳡 𐳢 𐳣 𐳤 𐳥 𐳦 𐳧 " ++
    "𐳨 𐳩 𐳪 𐳫 𐳬 𐳭 𐳮 𐳯 𐳰 𐳱 𐳲"),
   (0x10D50, 1, "𐵰 𐵱 𐵲 𐵳 𐵴 𐵵 𐵶 𐵷 𐵸 𐵹 𐵺 𐵻 𐵼 𐵽 𐵾 𐵿 𐶀 𐶁 𐶂 𐶃 𐶄 𐶅"),
   (0x118A0, 1, "𑣀 𑣁 𑣂 𑣃 𑣄 𑣅 𑣆 𑣇 𑣈 𑣉 𑣊 𑣋 𑣌 𑣍 𑣎 𑣏 𑣐 𑣑 𑣒 𑣓 𑣔 𑣕 𑣖 𑣗 𑣘 𑣙 𑣚 𑣛 𑣜 𑣝 𑣞 𑣟"),
   (0x16E40, 1, "𖹠 𖹡 𖹢 𖹣 𖹤 𖹥 𖹦 𖹧 𖹨 𖹩 𖹪 𖹫 𖹬 𖹭 𖹮 𖹯 𖹰 𖹱 𖹲 𖹳 𖹴 𖹵 𖹶 𖹷 𖹸 𖹹 𖹺 𖹻 𖹼 𖹽 𖹾 𖹿"),
   (0x16EA0, 1, "𖺻 𖺼 𖺽 𖺾 𖺿 𖻀 𖻁 𖻂 𖻃 𖻄 𖻅 𖻆 𖻇 𖻈 𖻉 𖻊 𖻋 𖻌 𖻍 𖻎 𖻏 𖻐 𖻑 𖻒 𖻓"),
   (0x1CCD6, 1, "a b c d e f g h i j k l m n o p q r s t u v w x y z 0 1 2 3 4 5 6 7 8 9"),
   (0x1D15E, 1, "𝅗𝅥 𝅘𝅥 𝅘𝅥𝅮 𝅘𝅥𝅯 𝅘𝅥𝅰 𝅘𝅥𝅱 𝅘𝅥𝅲"), (0x1D1BB, 1, "𝆹𝅥 𝆺𝅥 𝆹𝅥𝅮 𝆺𝅥𝅮 𝆹𝅥𝅯 𝆺𝅥𝅯"),
   (0x1D400, 1, "a b c d e f g h i j k l m n o p q r s t u v w x y z a b c d e f g h i j k l m n " ++
    "o p q r s t u v w x y z a b c d e f g h i j k l m n o p q r s t u v w x y z a b c d e f g"),

   (0x1D456, 1, "i j k l m n o p q r s t u v w x y z a b c d e f g h i j k l m n o p q r s t u v " ++
    "w x y z a b c d e f g h i j k l m n o p q r s t u v w x y z a"),
   (0x1D49E, 1, "c d"), (0x1D4A2, 1, "g"), (0x1D4A5, 1, "j k"), (0x1D4A9, 1, "n o p q"),
   (0x1D4AE, 1, "s t u v w x y z a b c d"), (0x1D4BB, 1, "f"), (0x1D4BD, 1, "h i j k l m n"),
   (0x1D4C5, 1, "p q r s t u v w x y z a b c d e f g h i j k l m n o p q r s t u v w x y z a b c " ++
    "d e f g h i j k l m n o p q r s t u v w x y z a b"),
   (0x1D507, 1, "d e f g"), (0x1D50D, 1, "j k l m n o p q"), (0x1D516, 1, "s t u v w x y"),
   (0x1D51E, 1, "a b c d e f g h i j k l m n o p q r s t u v w x y z a b"),
   (0x1D53B, 1, "d e f g"), (0x1D540, 1, "i j k l m"), (0x1D546, 1, "o"),
   (0x1D54A, 1, "s t u v w x y"),
   (0x1D552, 1, "a b c d e f g h i j k l m n o p q r s t u v w x y z a b c d e f g h i j k l m n " ++
    "o p q r s t u v w x y z a b c d e f g h i j k l m n o p q r s t u v w x y z a b c d e f g " ++
    "h i j k l m n o p q r s t u v w x y z a b c d e f g h i j k l m n o p q r s t u v w x y z " ++
    "a b c d e f g h i j k l m n o p q r s t u v w x y z a b c d e f g h i j k l m n o p q r s " ++
    "t u v w x y z a b c d e f g h i j k l m n o p q r s t u v w x y z a b c d e f g h i j k l " ++
    "m n o p q r s t u v w x y z a b c d e f g h i j k l m n o p q r s t u v w x y z a b c d e " ++
    "f g h i j k l m n o p q r s t u v w x y z a b c d e f g h i j k l m n o p q r s t u v w x " ++
    "y z a b c d e f g h i j k l m n o p q r s t u v w x y z ı ȷ"),

   (0x1D6A8, 1, "α β γ δ ε ζ η θ ι κ λ μ ν ξ ο π ρ θ σ τ υ φ χ ψ ω ∇ α β γ δ ε ζ η θ ι κ λ μ ν ξ " ++
    "ο π ρ σ σ τ υ φ χ ψ ω ∂ ε θ κ φ ρ π α β γ δ ε ζ η θ ι κ λ μ ν ξ ο π ρ θ σ τ υ φ χ ψ ω ∇ α " ++
    "β γ δ ε ζ η θ ι κ λ μ ν ξ ο π ρ σ σ τ υ φ χ ψ ω ∂ ε θ κ φ ρ π α β γ δ ε ζ η θ ι κ λ μ ν ξ " ++
    "ο π ρ θ σ τ υ φ χ ψ ω ∇ α β γ δ ε ζ η θ ι κ λ μ ν ξ ο π ρ σ σ τ υ φ χ ψ ω ∂ ε θ κ φ ρ π α " ++
    "β γ δ ε ζ η θ ι κ λ μ ν ξ ο π ρ θ σ τ υ φ χ ψ ω ∇ α β γ δ ε ζ η θ ι κ λ μ ν ξ ο π ρ σ σ τ " ++
    "υ φ χ ψ ω ∂ ε θ κ φ ρ π α β γ δ ε ζ η θ ι κ λ μ ν ξ ο π ρ θ σ τ υ φ χ ψ ω ∇ α β γ δ ε ζ η " ++
    "θ ι κ λ μ ν ξ ο π ρ σ σ τ υ φ χ ψ ω ∂ ε θ κ φ ρ π ϝ ϝ"),

   (0x1D7CE, 1, "0 1 2 3 4 5 6 7 8 9 0 1 2 3 4 5 6 7 8 9 0 1 2 3 4 5 6 7 8 9 0 1 2 3 4 5 6 7 8 9 " ++
    "0 1 2 3 4 5 6 7 8 9"),

   (0x1E030, 1, "а б в г д е ж з и к л м о п р с т у ф х ц ч ш ы э ю ꚉ ә і ј ө ү ӏ а б в г д е ж " ++
    "з и к л о п с у ф х ц ч ш ъ ы ґ і ѕ џ ҫ ꙑ ұ"),
   (0x1E900, 1, "𞤢 𞤣 𞤤 𞤥 𞤦 𞤧 𞤨 𞤩 𞤪 𞤫 𞤬 𞤭 𞤮 𞤯 𞤰 𞤱 𞤲 𞤳 𞤴 𞤵 𞤶 𞤷 𞤸 𞤹 𞤺 𞤻 𞤼 𞤽 𞤾 𞤿 𞥀 𞥁 𞥂 𞥃"),
   (0x1EE00, 1, "\u0627 \u0628 \u062c \u062f"),
   (0x1EE05, 1, "\u0648 \u0632 \u062d \u0637 \u064a \u0643 \u0644 \u0645 \u0646 \u0633 \u0639 " ++
    "\u0641 \u0635 \u0642 \u0631 \u0634 \u062a \u062b \u062e \u0630 \u0636 \u0638 \u063a " ++
    "\u066e \u06ba \u06a1 \u066f"),
   (0x1EE21, 1, "\u0628 \u062c"), (0x1EE24, 1, "\u0647"), (0x1EE27, 1, "\u062d"),
   (0x1EE29, 1, "\u064a \u0643 \u0644 \u0645 \u0646 \u0633 \u0639 \u0641 \u0635 \u0642"),
   (0x1EE34, 1, "\u0634 \u062a \u062b \u062e"), (0x1EE39, 2, "\u0636 \u063a"),
   (0x1EE42, 1, "\u062c"), (0x1EE47, 2, "\u062d \u064a \u0644"),
   (0x1EE4D, 1, "\u0646 \u0633 \u0639"), (0x1EE51, 1, "\u0635 \u0642"), (0x1EE54, 1, "\u0634"),
   (0x1EE57, 2, "\u062e \u0636 \u063a \u06ba \u066f"), (0x1EE61, 1, "\u0628 \u062c"),
   (0x1EE64, 1, "\u0647"), (0x1EE67, 1, "\u062d \u0637 \u064a \u0643"),
   (0x1EE6C, 1, "\u0645 \u0646 \u0633 \u0639 \u0641 \u0635 \u0642"),
   (0x1EE74, 1, "\u0634 \u062a \u062b \u062e"), (0x1EE79, 1, "\u0636 \u0638 \u063a \u066e"),
   (0x1EE7E, 1, "\u06a1"),
   (0x1EE80, 1, "\u0627 \u0628 \u062c \u062f \u0647 \u0648 \u0632 \u062d \u0637 \u064a"),
   (0x1EE8B, 1, "\u0644 \u0645 \u0646 \u0633 \u0639 \u0641 \u0635 \u0642 \u0631 \u0634 \u062a " ++
    "\u062b \u062e \u0630 \u0636 \u0638 \u063a"),
   (0x1EEA1, 1, "\u0628 \u062c \u062f"), (0x1EEA5, 1, "\u0648 \u0632 \u062d \u0637 \u064a"),
   (0x1EEAB, 1, "\u0644 \u0645 \u0646 \u0633 \u0639 \u0641 \u0635 \u0642 \u0631 \u0634 \u062a " ++
    "\u062b \u062e \u0630 \u0636 \u0638 \u063a"),
   (0x1F101, 1, "0, 1, 2, 3, 4, 5, 6, 7, 8, 9,"),
   (0x1F110, 1, "(a) (b) (c) (d) (e) (f) (g) (h) (i) (j) (k) (l) (m) (n) (o) (p) (q) (r) (s) (t) " ++
    "(u) (v) (w) (x) (y) (z) 〔s〕 c r cd wz"),
   (0x1F130, 1, "a b c d e f g h i j k l m n o p q r s t u v w x y z hv mv sd ss ppv wc"),
   (0x1F16A, 1, "mc md mr"), (0x1F190, 1, "dj"), (0x1F200, 1, "ほか ココ サ"),
   (0x1F210, 1, "手 字 双 デ 二 多 解 天 交 映 無 料 前 後 再 新 初 終 生 販 声 吹 演 投 捕 一 三 遊 左 中 右 指 走 打 禁 空 合 満 有 月 " ++
    "申 割 営 配"),
   (0x1F240, 1, "〔本〕 〔三〕 〔二〕 〔安〕 〔点〕 〔打〕 〔盗〕 〔勝〕 〔敗〕"), (0x1F250, 1, "得 可"),
   (0x1FBF0, 1, "0 1 2 3 4 5 6 7 8 9"),
   (0x2F800, 1, "丽 丸 乁 𠄢 你 侮 侻 倂 偺 備 僧 像 㒞 𠘺 免 兔 兤 具 𠔜 㒹 內 再 𠕋 冗 冤 仌 冬 况 𩇟 凵 刃 㓟 刻 剆 割 剷 㔕 勇 勉 勤 " ++
    "勺 包 匆 北 卉 卑 博 即 卽 卿 卿 卿 𠨬 灰 及 叟 𠭣 叫 叱 吆 咞 吸 呈 周 咢 哶 唐 啓 啣 善 善 喙 喫 喳 嗂 圖 嘆 圗 噑 噴 切 壮 城 埴 堍 " ++
    "型 堲 報 墬 𡓤 売 壷 夆 多 夢 奢 𡚨 𡛪 姬 娛 娧 姘 婦 㛮 㛼 嬈 嬾 嬾 𡧈 寃 寘 寧 寳 𡬘 寿 将 当 尢 㞁 屠 屮 峀 岍 𡷤 嵃 𡷦 嵮 嵫 嵼 巡 " ++
    "巢 㠯 巽 帨 帽 幩 㡢 𢆃 㡼 庰 庳 庶 廊 𪎒 廾 𢌱 𢌱 舁 弢 弢 㣇 𣊸 𦇚 形 彫 㣣 徚 忍 志 忹 悁 㤺 㤜 悔 𢛔 惇 慈 慌 慎 慌 慺 憎 憲 憤 憯 " ++
    "懞 懲 懶 成 戛 扝 抱 拔 捐 𢬌 挽 拼 捨 掃 揤 𢯱 搢 揅 掩 㨮 摩 摾 撝 摷 㩬 敏 敬 𣀊 旣 書 晉 㬙 暑 㬈 㫤 冒 冕 最 暜 肭 䏙 朗 望 朡 杞 " ++
    "杓 𣏃 㭉 柺 枅 桒 梅 𣑭 梎 栟 椔 㮝 楂 榣 槪 檨 𣚣 櫛 㰘 次 𣢧 歔 㱎 歲 殟 殺 殻 𣪍 𡴋 𣫺 汎 𣲼 沿 泍 汧 洖 派 海 流 浩 浸 涅 𣴞 洴 港 " ++
    "湮 㴳 滋 滇 𣻑 淹 潮 𣽞 𣾎 濆 瀹 瀞 瀛 㶖 灊 災 灷 炭 𠔥 煅 𤉣 熜 𤎫 爨 爵 牐 𤘈 犀 犕 𤜵 𤠔 獺 王 㺬 玥 㺸 㺸 瑇 瑜 瑱 璅 瓊 㼛 甤 𤰶 " ++
    "甾 𤲒 異 𢆟 瘐 𤾡 𤾸 𥁄 㿼 䀈 直 𥃳 𥃲 𥄙 𥄳 眞 真 真 睊 䀹 瞋 䁆 䂖 𥐝 硎 碌 磌 䃣 𥘦 祖 𥚚 𥛅 福 秫 䄯 穀 穊 穏 𥥼 𥪧 𥪧 竮 䈂 𥮫 篆 " ++
    "築 䈧 𥲀 糒 䊠 糨 糣 紀 𥾆 絣 䌁 緇 縂 繅 䌴 𦈨 𦉇 䍙 𦋙 罺 𦌾 羕 翺 者 𦓚 𦔣 聠 𦖨 聰 𣍟 䏕 育 脃 䐋 脾 媵 𦞧 𦞵 𣎓 𣎜 舁 舄 辞 䑫 芑 " ++
    "芋 芝 劳 花 芳 芽 苦 𦬼 若 茝 荣 莭 茣 莽 菧 著 荓 菊 菌 菜 𦰶 𦵫 𦳕 䔫 蓱 蓳 蔖 𧏊 蕤 𦼬 䕝 䕡 𦾱 𧃒 䕫 虐 虜 虧 虩 蚩 蚈 蜎 蛢 蝹 蜨 " ++
    "蝫 螆 䗗 蟡 蠁 䗹 衠 衣 𧙧 裗 裞 䘵 裺 㒻 𧢮 𧥦 䚾 䛇 誠 諭 變 豕 𧲨 貫 賁 贛 起 𧼯 𠠄 跋 趼 跰 𠣞 軔 輸 𨗒 𨗭 邔 郱 鄑 𨜮 鄛 鈸 鋗 鋘 " ++
    "鉼 鏹 鐕 𨯺 開 䦕 閷 𨵷 䧦 雃 嶲 霣 𩅅 𩈚 䩮 䩶 韠 𩐊 䪲 𩒖 頋 頋 頩 𩖶 飢 䬳 餩 馧 駂 駾 䯎 𩬰 鬒 鱀 鳽 䳎 䳭 鵧 𪃎 䳸 𪄅 𪈎 𪊑 麻 䵖 " ++
    "黹 黾 鼅 鼏 鼖 鼻 𪘀")]

/-- The blocks with their texts cut at the blanks. -/
def targets : List (Nat × Nat × List (List Char)) :=
  blocks.map fun (first, step, texts) => (first, step, Text.splitList ' ' texts.toList)

/-- What a character stands for, if it is another way of writing. -/
def target? (c : Char) : Option (List Char) :=
  targets.findSome? fun (first, step, texts) =>
    if first ≤ c.toNat && (c.toNat - first) % step == 0 then texts[(c.toNat - first) / step]?
    else none

end ElmAssist.Uri.Variant
