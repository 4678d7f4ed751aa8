import Ingest.Text.CharRange
import Ingest.Text.Cut
import Ingest.Text.Lowercase
import Ingest.Text.Unassigned
/-!
# Characters of domain names

Data of the compatibility processing for internationalised domain names: the characters that leave
no trace, the ones that no domain name may hold, and the ones that others stand for.  All other
characters are lower-cased.
-/

namespace Ingest.Url.Domain

/-- Characters that leave no trace in a domain name. -/
def ignoredRanges : List (Nat × Nat) := [
  (0xAD, 0xAD), (0x34F, 0x34F), (0x115F, 0x1160), (0x17B4, 0x17B5), (0x180B, 0x180F),
  (0x200B, 0x200B), (0x2060, 0x2064), (0x206A, 0x206F), (0x3164, 0x3164), (0xFE00, 0xFE0F),
  (0xFEFF, 0xFEFF), (0xFFA0, 0xFFA0), (0x1BCA0, 0x1BCA3), (0x1D173, 0x1D17A), (0xE0100, 0xE01EF)]

/-- Characters outside ASCII that no domain name may hold, beside the ones without a meaning. -/
def refusedRanges : List (Nat × Nat) := [
  (0x80, 0xA0), (0xA8, 0xA8), (0xAF, 0xAF), (0xB4, 0xB4), (0xB8, 0xB8), (0x2D8, 0x2DD),
  (0x37A, 0x37A), (0x384, 0x385), (0x600, 0x605), (0x61C, 0x61C), (0x6DD, 0x6DD), (0x70F, 0x70F),
  (0x890, 0x891), (0x8E2, 0x8E2), (0x1680, 0x1680), (0x1FBD, 0x1FBD), (0x1FBF, 0x1FC1),
  (0x1FCD, 0x1FCF), (0x1FDD, 0x1FDF), (0x1FED, 0x1FEE), (0x1FFD, 0x200A), (0x200E, 0x200F),
  (0x2017, 0x2017), (0x2024, 0x2026), (0x2028, 0x202F), (0x203E, 0x203E), (0x2047, 0x2049),
  (0x205F, 0x205F), (0x2066, 0x2069), (0x2100, 0x2101), (0x2105, 0x2106), (0x2488, 0x249B),
  (0x2A74, 0x2A74), (0x2FF0, 0x3000), (0x309B, 0x309C), (0x31EF, 0x31EF), (0x33C2, 0x33C2),
  (0x33C7, 0x33C7), (0x33D8, 0x33D8), (0xFC5E, 0xFC63), (0xFDFA, 0xFDFB), (0xFE12, 0xFE13),
  (0xFE16, 0xFE16), (0xFE19, 0xFE19), (0xFE30, 0xFE30), (0xFE47, 0xFE4C), (0xFE52, 0xFE52),
  (0xFE55, 0xFE56), (0xFE5F, 0xFE5F), (0xFE68, 0xFE68), (0xFE6A, 0xFE70), (0xFE72, 0xFE72),
  (0xFE74, 0xFE76), (0xFE78, 0xFE78), (0xFE7A, 0xFE7A), (0xFE7C, 0xFE7C), (0xFE7E, 0xFE7E),
  (0xFF03, 0xFF03), (0xFF05, 0xFF05), (0xFF0F, 0xFF0F), (0xFF1A, 0xFF1A), (0xFF1F, 0xFF20),
  (0xFF3B, 0xFF3E), (0xFF5C, 0xFF5C), (0xFFE3, 0xFFE3), (0xFFF9, 0xFFFD), (0x110BD, 0x110BD),
  (0x110CD, 0x110CD), (0x13430, 0x1343F), (0x1F100, 0x1F100), (0xE0001, 0xE007F)]

/-- Capitals that are not lower-cased: they stand for their small letters. -/
def keptCapitals : List (Nat × Nat) := [
  (0x13A0, 0x13F5)]

/-- Runs of characters: the first of them, and what each of them is replaced by. -/
def replacements : List (Nat × String) := [
  (0xAA, "a"),
  (0xB2, "2 3"),
  (0xB5, "μ"),
  (0xB9, "1 o"),
  (0xBC, "1⁄4 1⁄2 3⁄4"),
  (0x132, "ij ij"),
  (0x13F, "l· l·"),
  (0x149, "ʼn"),
  (0x17F, "s"),
  (0x1C4, "dž dž dž lj lj lj nj nj nj"),
  (0x1F1, "dz dz dz"),
  (0x2B0, "h ɦ j r ɹ ɻ ʁ w y"),
  (0x2E0, "ɣ l s x ʕ"),
  (0x340, "̀ ́"),
  (0x343, "̓ ̈́ ι"),
  (0x374, "ʹ"),
  (0x37E, ";"),
  (0x387, "·"),
  (0x3D0, "β θ υ ύ ϋ φ π"),
  (0x3F0, "κ ρ σ"),
  (0x3F5, "ε"),
  (0x3F9, "σ"),
  (0x587, "եւ"),
  (0x675, "اٴ وٴ ۇٴ يٴ"),
  (0x958, "क़ ख़ ग़ ज़ ड़ ढ़ फ़ य़"),
  (0x9DC, "ড় ঢ়"),
  (0x9DF, "য়"),
  (0xA33, "ਲ਼"),
  (0xA36, "ਸ਼"),
  (0xA59, "ਖ਼ ਗ਼ ਜ਼"),
  (0xA5E, "ਫ਼"),
  (0xB5C, "ଡ଼ ଢ଼"),
  (0xE33, "ํา"),
  (0xEB3, "ໍາ"),
  (0xEDC, "ຫນ ຫມ"),
  (0xF0C, "་"),
  (0xF43, "གྷ"),
  (0xF4D, "ཌྷ"),
  (0xF52, "དྷ"),
  (0xF57, "བྷ"),
  (0xF5C, "ཛྷ"),
  (0xF69, "ཀྵ"),
  (0xF73, "ཱི"),
  (0xF75, "ཱུ ྲྀ ྲཱྀ ླྀ ླཱྀ"),
  (0xF81, "ཱྀ"),
  (0xF93, "ྒྷ"),
  (0xF9D, "ྜྷ"),
  (0xFA2, "ྡྷ"),
  (0xFA7, "ྦྷ"),
  (0xFAC, "ྫྷ"),
  (0xFB9, "ྐྵ"),
  (0x10FC, "ნ"),
  (0x13F8, "Ᏸ Ᏹ Ᏺ Ᏻ Ᏼ Ᏽ"),
  (0x1C80, "в д о с т т ъ ѣ ꙋ"),
  (0x1D2C, "a æ b"),
  (0x1D30, "d e ǝ g h i j k l m n"),
  (0x1D3C, "o ȣ p r t u w a ɐ ɑ ᴂ b d e ə ɛ ɜ g"),
  (0x1D4F, "k m ŋ o ɔ ᴖ ᴗ p t u ᴝ ɯ v ᴥ β γ δ φ χ i r u v β γ ρ φ χ"),
  (0x1D78, "н"),
  (0x1D9B, "ɒ c ɕ ð ɜ f ɟ ɡ ɥ ɨ ɩ ɪ ᵻ ʝ ɭ ᶅ ʟ ɱ ɰ ɲ ɳ ɴ ɵ ɸ ʂ ʃ ƫ ʉ ʊ ᴜ ʋ ʌ z ʐ ʑ"),
  (0x1DBE, "ʒ θ"),
  (0x1E9A, "aʾ ṡ"),
  (0x1F71, "ά"),
  (0x1F73, "έ"),
  (0x1F75, "ή"),
  (0x1F77, "ί"),
  (0x1F79, "ό"),
  (0x1F7B, "ύ"),
  (0x1F7D, "ώ"),
  (0x1F80, "ἀι ἁι ἂι ἃι ἄι ἅι ἆι ἇι ἀι ἁι ἂι ἃι ἄι ἅι ἆι ἇι ἠι ἡι ἢι ἣι ἤι ἥι ἦι"),
  (0x1F97, "ἧι ἠι ἡι ἢι ἣι ἤι ἥι ἦι ἧι ὠι ὡι ὢι ὣι ὤι ὥι ὦι ὧι ὠι ὡι ὢι ὣι ὤι ὥι"),
  (0x1FAE, "ὦι ὧι"),
  (0x1FB2, "ὰι αι άι"),
  (0x1FB7, "ᾶι"),
  (0x1FBB, "ά αι"),
  (0x1FBE, "ι"),
  (0x1FC2, "ὴι ηι ήι"),
  (0x1FC7, "ῆι"),
  (0x1FC9, "έ"),
  (0x1FCB, "ή ηι"),
  (0x1FD3, "ΐ"),
  (0x1FDB, "ί"),
  (0x1FE3, "ΰ"),
  (0x1FEB, "ύ"),
  (0x1FEF, "`"),
  (0x1FF2, "ὼι ωι ώι"),
  (0x1FF7, "ῶι"),
  (0x1FF9, "ό"),
  (0x1FFB, "ώ ωι"),
  (0x2011, "‐"),
  (0x2033, "′′ ′′′"),
  (0x2036, "‵‵ ‵‵‵"),
  (0x203C, "!!"),
  (0x2057, "′′′′"),
  (0x2070, "0 i"),
  (0x2074, "4 5 6 7 8 9 + − = ( ) n 0 1 2 3 4 5 6 7 8 9 + − = ( )"),
  (0x2090, "a e o x ə h k l m n p s t"),
  (0x20A8, "rs"),
  (0x2102, "c °c"),
  (0x2107, "ɛ"),
  (0x2109, "°f g h h h h ħ i i l l"),
  (0x2115, "n no"),
  (0x2119, "p q r r r"),
  (0x2120, "sm tel tm"),
  (0x2124, "z"),
  (0x2128, "z"),
  (0x212C, "b c"),
  (0x212F, "e e f"),
  (0x2133, "m o א ב ג ד i"),
  (0x213B, "fax π γ γ π ∑"),
  (0x2145, "d d e i j"),
  (0x2150, "1⁄7 1⁄9 1⁄10 1⁄3 2⁄3 1⁄5 2⁄5 3⁄5 4⁄5 1⁄6 5⁄6 1⁄8 3⁄8 5⁄8 7⁄8 1⁄ i ii"),
  (0x2162, "iii iv v vi vii viii ix x xi xii l c d m i ii iii iv v vi vii viii ix"),
  (0x2179, "x xi xii l c d m"),
  (0x2189, "0⁄3"),
  (0x222C, "∫∫ ∫∫∫"),
  (0x222F, "∮∮ ∮∮∮"),
  (0x2329, "〈 〉"),
  (0x2460, "1 2 3 4 5 6 7 8 9 10 11 12 13 14 15 16 17 18 19 20 (1) (2) (3) (4) (5)"),
  (0x2479, "(6) (7) (8) (9) (10) (11) (12) (13) (14) (15) (16) (17) (18) (19) (20)"),
  (0x249C, "(a) (b) (c) (d) (e) (f) (g) (h) (i) (j) (k) (l) (m) (n) (o) (p) (q)"),
  (0x24AD, "(r) (s) (t) (u) (v) (w) (x) (y) (z) a b c d e f g h i j k l m n o p q"),
  (0x24C7, "r s t u v w x y z a b c d e f g h i j k l m n o p q r s t u v w x y z"),
  (0x24EA, "0"),
  (0x2A0C, "∫∫∫∫"),
  (0x2A75, "== ==="),
  (0x2ADC, "⫝̸"),
  (0x2C7C, "j v"),
  (0x2D6F, "ⵡ"),
  (0x2E9F, "母"),
  (0x2EF3, "龟"),
  (0x2F00, "一 丨 丶 丿 乙 亅 二 亠 人 儿 入 八 冂 冖 冫 几 凵 刀 力 勹 匕 匚 匸 十 卜 卩 厂 厶 又 口 囗 土 士 夂 夊"),
  (0x2F23, "夕 大 女 子 宀 寸 小 尢 尸 屮 山 巛 工 己 巾 干 幺 广 廴 廾 弋 弓 彐 彡 彳 心 戈 戶 手 支 攴 文 斗 斤 方"),
  (0x2F46, "无 日 曰 月 木 欠 止 歹 殳 毋 比 毛 氏 气 水 火 爪 父 爻 爿 片 牙 牛 犬 玄 玉 瓜 瓦 甘 生 用 田 疋 疒 癶"),
  (0x2F69, "白 皮 皿 目 矛 矢 石 示 禸 禾 穴 立 竹 米 糸 缶 网 羊 羽 老 而 耒 耳 聿 肉 臣 自 至 臼 舌 舛 舟 艮 色 艸"),
  (0x2F8C, "虍 虫 血 行 衣 襾 見 角 言 谷 豆 豕 豸 貝 赤 走 足 身 車 辛 辰 辵 邑 酉 釆 里 金 長 門 阜 隶 隹 雨 靑 非"),
  (0x2FAF, "面 革 韋 韭 音 頁 風 飛 食 首 香 馬 骨 高 髟 鬥 鬯 鬲 鬼 魚 鳥 鹵 鹿 麥 麻 黃 黍 黑 黹 黽 鼎 鼓 鼠 鼻 齊"),
  (0x2FD2, "齒 龍 龜 龠"),
  (0x3002, "."),
  (0x3036, "〒"),
  (0x3038, "十 卄 卅"),
  (0x309F, "より"),
  (0x30FF, "コト"),
  (0x3131, "ᄀ ᄁ ᆪ ᄂ ᆬ ᆭ ᄃ ᄄ ᄅ ᆰ ᆱ ᆲ ᆳ ᆴ ᆵ ᄚ ᄆ ᄇ ᄈ ᄡ ᄉ ᄊ ᄋ ᄌ ᄍ ᄎ ᄏ ᄐ ᄑ ᄒ ᅡ ᅢ ᅣ ᅤ ᅥ"),
  (0x3154, "ᅦ ᅧ ᅨ ᅩ ᅪ ᅫ ᅬ ᅭ ᅮ ᅯ ᅰ ᅱ ᅲ ᅳ ᅴ ᅵ"),
  (0x3165, "ᄔ ᄕ ᇇ ᇈ ᇌ ᇎ ᇓ ᇗ ᇙ ᄜ ᇝ ᇟ ᄝ ᄞ ᄠ ᄢ ᄣ ᄧ ᄩ ᄫ ᄬ ᄭ ᄮ ᄯ ᄲ ᄶ ᅀ ᅇ ᅌ ᇱ ᇲ ᅗ ᅘ ᅙ ᆄ"),
  (0x3188, "ᆅ ᆈ ᆑ ᆒ ᆔ ᆞ ᆡ"),
  (0x3192, "一 二 三 四 上 中 下 甲 乙 丙 丁 天 地 人"),
  (0x3200, "(ᄀ) (ᄂ) (ᄃ) (ᄅ) (ᄆ) (ᄇ) (ᄉ) (ᄋ) (ᄌ) (ᄎ) (ᄏ) (ᄐ) (ᄑ) (ᄒ) (가) (나) (다)"),
  (0x3211, "(라) (마) (바) (사) (아) (자) (차) (카) (타) (파) (하) (주) (오전) (오후)"),
  (0x3220, "(一) (二) (三) (四) (五) (六) (七) (八) (九) (十) (月) (火) (水) (木) (金) (土) (日)"),
  (0x3231, "(株) (有) (社) (名) (特) (財) (祝) (労) (代) (呼) (学) (監) (企) (資) (協) (祭) (休)"),
  (0x3242, "(自) (至) 問 幼 文 箏"),
  (0x3250, "pte 21 22 23 24 25 26 27 28 29 30 31 32 33 34 35 ᄀ ᄂ ᄃ ᄅ ᄆ ᄇ ᄉ ᄋ ᄌ ᄎ ᄏ"),
  (0x326B, "ᄐ ᄑ ᄒ 가 나 다 라 마 바 사 아 자 차 카 타 파 하 참고 주의 우"),
  (0x3280, "一 二 三 四 五 六 七 八 九 十 月 火 水 木 金 土 日 株 有 社 名 特 財 祝 労 秘 男 女 適 優 印 注 項 休 写"),
  (0x32A3, "正 上 中 下 左 右 医 宗 学 監 企 資 協 夜 36 37 38 39 40 41 42 43 44 45 46 47 48 49"),
  (0x32BF, "50 1月 2月 3月 4月 5月 6月 7月 8月 9月 10月 11月 12月 hg erg ev ltd ア イ ウ エ オ カ キ"),
  (0x32D7, "ク ケ コ サ シ ス セ ソ タ チ ツ テ ト ナ ニ ヌ ネ ノ ハ ヒ フ ヘ ホ マ ミ ム メ モ ヤ ユ ヨ ラ リ ル レ"),
  (0x32FA, "ロ ワ ヰ ヱ ヲ 令和 アパート アルファ アンペア アール イニング インチ ウォン エスクード エーカー オンス オーム カイリ"),
  (0x330C, "カラット カロリー ガロン ガンマ ギガ ギニー キュリー ギルダー キロ キログラム キロメートル キロワット グラム グラムトン"),
  (0x331A, "クルゼイロ クローネ ケース コルナ コーポ サイクル サンチーム シリング センチ セント ダース デシ ドル トン ナノ ノット ハイツ"),
  (0x332B, "パーセント パーツ バーレル ピアストル ピクル ピコ ビル ファラッド フィート ブッシェル フラン ヘクタール ペソ ペニヒ ヘルツ"),
  (0x333A, "ペンス ページ ベータ ポイント ボルト ホン ポンド ホール ホーン マイクロ マイル マッハ マルク マンション ミクロン ミリ"),
  (0x334A, "ミリバール メガ メガトン メートル ヤード ヤール ユアン リットル リラ ルピー ルーブル レム レントゲン ワット 0点 1点 2点"),
  (0x335B, "3点 4点 5点 6点 7点 8点 9点 10点 11点 12点 13点 14点 15点 16点 17点 18点 19点 20点 21点"),
  (0x336E, "22点 23点 24点 hpa da au bar ov pc dm dm2 dm3 iu 平成 昭和 大正 明治 株式会社 pa na"),
  (0x3382, "μa ma ka kb mb gb cal kcal pf nf μf μg mg kg hz khz mhz ghz thz μl ml"),
  (0x3397, "dl kl fm nm μm mm cm km mm2 cm2 m2 km2 mm3 cm3 m3 km3 m∕s m∕s2 pa kpa"),
  (0x33AB, "mpa gpa rad rad∕s rad∕s2 ps ns μs ms pv nv μv mv kv mv pw nw μw mw kw"),
  (0x33BF, "mw kω mω"),
  (0x33C3, "bq cc cd c∕kg"),
  (0x33C8, "db gy ha hp in kk km kt lm ln log lx mb mil mol ph"),
  (0x33D9, "ppm pr sr sv wb v∕m a∕m 1日 2日 3日 4日 5日 6日 7日 8日 9日 10日 11日 12日 13日 14日"),
  (0x33EE, "15日 16日 17日 18日 19日 20日 21日 22日 23日 24日 25日 26日 27日 28日 29日 30日 31日"),
  (0x33FF, "gal"),
  (0xA69C, "ъ ь"),
  (0xA770, "ꝯ"),
  (0xA7F1, "s c f q"),
  (0xA7F8, "ħ œ"),
  (0xAB5C, "ꜧ ꬷ ɫ ꭒ"),
  (0xAB69, "ʍ"),
  (0xAB70, "Ꭰ Ꭱ Ꭲ Ꭳ Ꭴ Ꭵ Ꭶ Ꭷ Ꭸ Ꭹ Ꭺ Ꭻ Ꭼ Ꭽ Ꭾ Ꭿ Ꮀ Ꮁ Ꮂ Ꮃ Ꮄ Ꮅ Ꮆ Ꮇ Ꮈ Ꮉ Ꮊ Ꮋ Ꮌ Ꮍ Ꮎ Ꮏ Ꮐ Ꮑ Ꮒ"),
  (0xAB93, "Ꮓ Ꮔ Ꮕ Ꮖ Ꮗ Ꮘ Ꮙ Ꮚ Ꮛ Ꮜ Ꮝ Ꮞ Ꮟ Ꮠ Ꮡ Ꮢ Ꮣ Ꮤ Ꮥ Ꮦ Ꮧ Ꮨ Ꮩ Ꮪ Ꮫ Ꮬ Ꮭ Ꮮ Ꮯ Ꮰ Ꮱ Ꮲ Ꮳ Ꮴ Ꮵ"),
  (0xABB6, "Ꮶ Ꮷ Ꮸ Ꮹ Ꮺ Ꮻ Ꮼ Ꮽ Ꮾ Ꮿ"),
  (0xF900, "豈 更 車 賈 滑 串 句 龜 龜 契 金 喇 奈 懶 癩 羅 蘿 螺 裸 邏 樂 洛 烙 珞 落 酪 駱 亂 卵 欄 爛 蘭 鸞 嵐 濫"),
  (0xF923, "藍 襤 拉 臘 蠟 廊 朗 浪 狼 郎 來 冷 勞 擄 櫓 爐 盧 老 蘆 虜 路 露 魯 鷺 碌 祿 綠 菉 錄 鹿 論 壟 弄 籠 聾"),
  (0xF946, "牢 磊 賂 雷 壘 屢 樓 淚 漏 累 縷 陋 勒 肋 凜 凌 稜 綾 菱 陵 讀 拏 樂 諾 丹 寧 怒 率 異 北 磻 便 復 不 泌"),
  (0xF969, "數 索 參 塞 省 葉 說 殺 辰 沈 拾 若 掠 略 亮 兩 凉 梁 糧 良 諒 量 勵 呂 女 廬 旅 濾 礪 閭 驪 麗 黎 力 曆"),
  (0xF98C, "歷 轢 年 憐 戀 撚 漣 煉 璉 秊 練 聯 輦 蓮 連 鍊 列 劣 咽 烈 裂 說 廉 念 捻 殮 簾 獵 令 囹 寧 嶺 怜 玲 瑩"),
  (0xF9AF, "羚 聆 鈴 零 靈 領 例 禮 醴 隸 惡 了 僚 寮 尿 料 樂 燎 療 蓼 遼 龍 暈 阮 劉 杻 柳 流 溜 琉 留 硫 紐 類 六"),
  (0xF9D2, "戮 陸 倫 崙 淪 輪 律 慄 栗 率 隆 利 吏 履 易 李 梨 泥 理 痢 罹 裏 裡 里 離 匿 溺 吝 燐 璘 藺 隣 鱗 麟 林"),
  (0xF9F5, "淋 臨 立 笠 粒 狀 炙 識 什 茶 刺 切 度 拓 糖 宅 洞 暴 輻 行 降 見 廓 兀 嗀"),
  (0xFA10, "塚"),
  (0xFA12, "晴"),
  (0xFA15, "凞 猪 益 礼 神 祥 福 靖 精 羽"),
  (0xFA20, "蘒"),
  (0xFA22, "諸"),
  (0xFA25, "逸 都"),
  (0xFA2A, "飯 飼 館 鶴 郞 隷 侮 僧 免 勉 勤 卑 喝 嘆 器 塀 墨 層 屮 悔 慨 憎 懲 敏 既 暑 梅 海 渚 漢 煮 爫 琢 碑 社"),
  (0xFA4D, "祉 祈 祐 祖 祝 禍 禎 穀 突 節 練 縉 繁 署 者 臭 艹 艹 著 褐 視 謁 謹 賓 贈 辶 逸 難 響 頻 恵 𤋮 舘"),
  (0xFA70, "並 况 全 侀 充 冀 勇 勺 喝 啕 喙 嗢 塚 墳 奄 奔 婢 嬨 廒 廙 彩 徭 惘 慎 愈 憎 慠 懲 戴 揄 搜 摒 敖 晴 朗"),
  (0xFA93, "望 杖 歹 殺 流 滛 滋 漢 瀞 煮 瞧 爵 犯 猪 瑱 甆 画 瘝 瘟 益 盛 直 睊 着 磌 窱 節 类 絛 練 缾 者 荒 華 蝹"),
  (0xFAB6, "襁 覆 視 調 諸 請 謁 諾 諭 謹 變 贈 輸 遲 醙 鉶 陼 難 靖 韛 響 頋 頻 鬒 龜 𢡊 𢡄 𣏕 㮝 䀘 䀹 𥉉 𥳐 𧻓 齃"),
  (0xFAD9, "龎"),
  (0xFB00, "ff fi fl ffi ffl st st"),
  (0xFB13, "մն մե մի վն մխ"),
  (0xFB1D, "יִ"),
  (0xFB1F, "ײַ ע א ד ה כ ל ם ר ת + שׁ שׂ שּׁ שּׂ אַ אָ אּ בּ גּ דּ הּ וּ זּ"),
  (0xFB38, "טּ יּ ךּ כּ לּ"),
  (0xFB3E, "מּ"),
  (0xFB40, "נּ סּ"),
  (0xFB43, "ףּ פּ"),
  (0xFB46, "צּ קּ רּ שּ תּ וֹ בֿ כֿ פֿ אל ٱ ٱ ٻ ٻ ٻ ٻ پ پ پ پ ڀ ڀ ڀ ڀ ٺ ٺ ٺ ٺ ٿ ٿ"),
  (0xFB64, "ٿ ٿ ٹ ٹ ٹ ٹ ڤ ڤ ڤ ڤ ڦ ڦ ڦ ڦ ڄ ڄ ڄ ڄ ڃ ڃ ڃ ڃ چ چ چ چ ڇ ڇ ڇ ڇ ڍ ڍ ڌ ڌ ڎ"),
  (0xFB87, "ڎ ڈ ڈ ژ ژ ڑ ڑ ک ک ک ک گ گ گ گ ڳ ڳ ڳ ڳ ڱ ڱ ڱ ڱ ں ں ڻ ڻ ڻ ڻ ۀ ۀ ہ ہ ہ ہ"),
  (0xFBAA, "ھ ھ ھ ھ ے ے ۓ ۓ"),
  (0xFBD3, "ڭ ڭ ڭ ڭ ۇ ۇ ۆ ۆ ۈ ۈ ۇٴ ۋ ۋ ۅ ۅ ۉ ۉ ې ې ې ې ى ى ئا ئا ئە ئە ئو ئو ئۇ ئۇ"),
  (0xFBF2, "ئۆ ئۆ ئۈ ئۈ ئې ئې ئې ئى ئى ئى ی ی ی ی ئج ئح ئم ئى ئي بج بح بخ بم بى بي"),
  (0xFC0B, "تج تح تخ تم تى تي ثج ثم ثى ثي جح جم حج حم خج خح خم سج سح سخ سم صح صم"),
  (0xFC22, "ضج ضح ضخ ضم طح طم ظم عج عم غج غم فج فح فخ فم فى في قح قم قى قي كا كج"),
  (0xFC39, "كح كخ كل كم كى كي لج لح لخ لم لى لي مج مح مخ مم مى مي نج نح نخ نم نى"),
  (0xFC50, "ني هج هم هى هي يج يح يخ يم يى يي ذٰ رٰ ىٰ"),
  (0xFC64, "ئر ئز ئم ئن ئى ئي بر بز بم بن بى بي تر تز تم تن تى تي ثر ثز ثم ثن ثى"),
  (0xFC7B, "ثي فى في قى قي كا كل كم كى كي لم لى لي ما مم نر نز نم نن نى ني ىٰ ير"),
  (0xFC92, "يز يم ين يى يي ئج ئح ئخ ئم ئه بج بح بخ بم به تج تح تخ تم ته ثم جح جم"),
  (0xFCA9, "حج حم خج خم سج سح سخ سم صح صخ صم ضج ضح ضخ ضم طح ظم عج عم غج غم فج فح"),
  (0xFCC0, "فخ فم قح قم كج كح كخ كل كم لج لح لخ لم له مج مح مخ مم نج نح نخ نم نه"),
  (0xFCD7, "هج هم هٰ يج يح يخ يم يه ئم ئه بم به تم ته ثم ثه سم سه شم شه كل كم لم"),
  (0xFCEE, "نم نه يم يه ـَّ ـُّ ـِّ طى طي عى عي غى غي سى سي شى شي حى حي جى جي خى"),
  (0xFD04, "خي صى صي ضى ضي شج شح شخ شم شر سر صر ضر طى طي عى عي غى غي سى سي شى شي"),
  (0xFD1B, "حى حي جى جي خى خي صى صي ضى ضي شج شح شخ شم شر سر صر ضر شج شح شخ شم سه"),
  (0xFD32, "شه طم سج سح سخ شج شح شخ طم ظم اً اً"),
  (0xFD50, "تجم تحج تحج تحم تخم تمج تمح تمخ جمح جمح حمي حمى سحج سجح سجى سمح سمح"),
  (0xFD61, "سمج سمم سمم صحح صحح صمم شحم شحم شجي شمخ شمخ شمم شمم ضحى ضخم ضخم طمح"),
  (0xFD72, "طمح طمم طمي عجم عمم عمم عمى غمم غمي غمى فخم فخم قمح قمم لحم لحي لحى"),
  (0xFD83, "لجج لجج لخم لخم لمح لمح محج محم محي مجح مجم مخج مخم"),
  (0xFD92, "مجخ همج همم نحم نحى نجم نجم نجى نمي نمى يمم يمم بخي تجي تجى تخي تخى"),
  (0xFDA3, "تمي تمى جمي جحى جمى سخى صحي شحي ضحي لجي لمي يحي يجي يمي ممي قمي نحي"),
  (0xFDB4, "قمح لحم عمي كمي نجح مخي لجم كمم لجم نجح جحي حجي مجي فمي بحي كمم عجم"),
  (0xFDC5, "صمم سخي نجي"),
  (0xFDF0, "صلے قلے الله اكبر محمد صلعم رسول عليه وسلم صلى"),
  (0xFDFC, "ریال"),
  (0xFE10, ", 、"),
  (0xFE14, "; !"),
  (0xFE17, "〖 〗"),
  (0xFE31, "— – _ _ ( ) \x7b \x7d 〔 〕 【 】 《 》 〈 〉 「 」 『 』"),
  (0xFE4D, "_ _ _ , 、"),
  (0xFE54, ";"),
  (0xFE57, "! — ( ) \x7b \x7d 〔 〕"),
  (0xFE60, "& * + - < > ="),
  (0xFE69, "$"),
  (0xFE71, "ـً"),
  (0xFE77, "ـَ"),
  (0xFE79, "ـُ"),
  (0xFE7B, "ـِ"),
  (0xFE7D, "ـّ"),
  (0xFE7F, "ـْ ء آ آ أ أ ؤ ؤ إ إ ئ ئ ئ ئ ا ا ب ب ب ب ة ة ت ت ت ت ث ث ث ث ج ج ج ج ح"),
  (0xFEA2, "ح ح ح خ خ خ خ د د ذ ذ ر ر ز ز س س س س ش ش ش ش ص ص ص ص ض ض ض ض ط ط ط ط"),
  (0xFEC5, "ظ ظ ظ ظ ع ع ع ع غ غ غ غ ف ف ف ف ق ق ق ق ك ك ك ك ل ل ل ل م م م م ن ن ن"),
  (0xFEE8, "ن ه ه ه ه و و ى ى ي ي ي ي لآ لآ لأ لأ لإ لإ لا لا"),
  (0xFF01, "! \""),
  (0xFF04, "$"),
  (0xFF06, "& ' ( ) * + , - ."),
  (0xFF10, "0 1 2 3 4 5 6 7 8 9"),
  (0xFF1B, "; < = >"),
  (0xFF21, "a b c d e f g h i j k l m n o p q r s t u v w x y z"),
  (0xFF3F, "_ ` a b c d e f g h i j k l m n o p q r s t u v w x y z \x7b"),
  (0xFF5D, "\x7d ~ ⦅ ⦆ . 「 」 、 ・ ヲ ァ ィ ゥ ェ ォ ャ ュ ョ ッ ー ア イ ウ エ オ カ キ ク ケ コ サ シ ス セ ソ"),
  (0xFF80, "タ チ ツ テ ト ナ ニ ヌ ネ ノ ハ ヒ フ ヘ ホ マ ミ ム メ モ ヤ ユ ヨ ラ リ ル レ ロ ワ ン ゙ ゚"),
  (0xFFA1, "ᄀ ᄁ ᆪ ᄂ ᆬ ᆭ ᄃ ᄄ ᄅ ᆰ ᆱ ᆲ ᆳ ᆴ ᆵ ᄚ ᄆ ᄇ ᄈ ᄡ ᄉ ᄊ ᄋ ᄌ ᄍ ᄎ ᄏ ᄐ ᄑ ᄒ"),
  (0xFFC2, "ᅡ ᅢ ᅣ ᅤ ᅥ ᅦ"),
  (0xFFCA, "ᅧ ᅨ ᅩ ᅪ ᅫ ᅬ"),
  (0xFFD2, "ᅭ ᅮ ᅯ ᅰ ᅱ ᅲ"),
  (0xFFDA, "ᅳ ᅴ ᅵ"),
  (0xFFE0, "¢ £ ¬"),
  (0xFFE4, "¦ ¥ ₩"),
  (0xFFE8, "│ ← ↑ → ↓ ■ ○"),
  (0x10781, "ː ˑ æ ʙ ɓ"),
  (0x10787, "ʣ ꭦ ʥ ʤ ɖ ɗ ᶑ ɘ ɞ ʩ ɤ ɢ ɠ ʛ ħ ʜ ɧ ʄ ʪ ʫ ɬ 𝼄 ꞎ ɮ 𝼅 ʎ 𝼆 ø ɶ ɷ q ɺ 𝼈 ɽ ɾ"),
  (0x107AA, "ʀ ʨ ʦ ꭧ ʧ ʈ ⱱ"),
  (0x107B2, "ʏ ʡ ʢ ʘ ǀ ǁ ǂ 𝼊 𝼞"),
  (0x1CCD6, "a b c d e f g h i j k l m n o p q r s t u v w x y z 0 1 2 3 4 5 6 7 8"),
  (0x1CCF9, "9"),
  (0x1D15E, "𝅗𝅥 𝅘𝅥 𝅘𝅥𝅮 𝅘𝅥𝅯 𝅘𝅥𝅰 𝅘𝅥𝅱 𝅘𝅥𝅲"),
  (0x1D1BB, "𝆹𝅥 𝆺𝅥 𝆹𝅥𝅮 𝆺𝅥𝅮 𝆹𝅥𝅯 𝆺𝅥𝅯"),
  (0x1D400, "a b c d e f g h i j k l m n o p q r s t u v w x y z a b c d e f g h i"),
  (0x1D423, "j k l m n o p q r s t u v w x y z a b c d e f g h i j k l m n o p q r"),
  (0x1D446, "s t u v w x y z a b c d e f g"),
  (0x1D456, "i j k l m n o p q r s t u v w x y z a b c d e f g h i j k l m n o p q"),
  (0x1D479, "r s t u v w x y z a b c d e f g h i j k l m n o p q r s t u v w x y z"),
  (0x1D49C, "a"),
  (0x1D49E, "c d"),
  (0x1D4A2, "g"),
  (0x1D4A5, "j k"),
  (0x1D4A9, "n o p q"),
  (0x1D4AE, "s t u v w x y z a b c d"),
  (0x1D4BB, "f"),
  (0x1D4BD, "h i j k l m n"),
  (0x1D4C5, "p q r s t u v w x y z a b c d e f g h i j k l m n o p q r s t u v w x"),
  (0x1D4E8, "y z a b c d e f g h i j k l m n o p q r s t u v w x y z a b"),
  (0x1D507, "d e f g"),
  (0x1D50D, "j k l m n o p q"),
  (0x1D516, "s t u v w x y"),
  (0x1D51E, "a b c d e f g h i j k l m n o p q r s t u v w x y z a b"),
  (0x1D53B, "d e f g"),
  (0x1D540, "i j k l m"),
  (0x1D546, "o"),
  (0x1D54A, "s t u v w x y"),
  (0x1D552, "a b c d e f g h i j k l m n o p q r s t u v w x y z a b c d e f g h i"),
  (0x1D575, "j k l m n o p q r s t u v w x y z a b c d e f g h i j k l m n o p q r"),
  (0x1D598, "s t u v w x y z a b c d e f g h i j k l m n o p q r s t u v w x y z a"),
  (0x1D5BB, "b c d e f g h i j k l m n o p q r s t u v w x y z a b c d e f g h i j"),
  (0x1D5DE, "k l m n o p q r s t u v w x y z a b c d e f g h i j k l m n o p q r s"),
  (0x1D601, "t u v w x y z a b c d e f g h i j k l m n o p q r s t u v w x y z a b"),
  (0x1D624, "c d e f g h i j k l m n o p q r s t u v w x y z a b c d e f g h i j k"),
  (0x1D647, "l m n o p q r s t u v w x y z a b c d e f g h i j k l m n o p q r s t"),
  (0x1D66A, "u v w x y z a b c d e f g h i j k l m n o p q r s t u v w x y z a b c"),
  (0x1D68D, "d e f g h i j k l m n o p q r s t u v w x y z ı ȷ"),
  (0x1D6A8, "α β γ δ ε ζ η θ ι κ λ μ ν ξ ο π ρ θ σ τ υ φ χ ψ ω ∇ α β γ δ ε ζ η θ ι"),
  (0x1D6CB, "κ λ μ ν ξ ο π ρ σ σ τ υ φ χ ψ ω ∂ ε θ κ φ ρ π α β γ δ ε ζ η θ ι κ λ μ"),
  (0x1D6EE, "ν ξ ο π ρ θ σ τ υ φ χ ψ ω ∇ α β γ δ ε ζ η θ ι κ λ μ ν ξ ο π ρ σ σ τ υ"),
  (0x1D711, "φ χ ψ ω ∂ ε θ κ φ ρ π α β γ δ ε ζ η θ ι κ λ μ ν ξ ο π ρ θ σ τ υ φ χ ψ"),
  (0x1D734, "ω ∇ α β γ δ ε ζ η θ ι κ λ μ ν ξ ο π ρ σ σ τ υ φ χ ψ ω ∂ ε θ κ φ ρ π α"),
  (0x1D757, "β γ δ ε ζ η θ ι κ λ μ ν ξ ο π ρ θ σ τ υ φ χ ψ ω ∇ α β γ δ ε ζ η θ ι κ"),
  (0x1D77A, "λ μ ν ξ ο π ρ σ σ τ υ φ χ ψ ω ∂ ε θ κ φ ρ π α β γ δ ε ζ η θ ι κ λ μ ν"),
  (0x1D79D, "ξ ο π ρ θ σ τ υ φ χ ψ ω ∇ α β γ δ ε ζ η θ ι κ λ μ ν ξ ο π ρ σ σ τ υ φ"),
  (0x1D7C0, "χ ψ ω ∂ ε θ κ φ ρ π ϝ ϝ"),
  (0x1D7CE, "0 1 2 3 4 5 6 7 8 9 0 1 2 3 4 5 6 7 8 9 0 1 2 3 4 5 6 7 8 9 0 1 2 3 4"),
  (0x1D7F1, "5 6 7 8 9 0 1 2 3 4 5 6 7 8 9"),
  (0x1E030, "а б в г д е ж з и к л м о п р с т у ф х ц ч ш ы э ю ꚉ ә і ј ө ү ӏ а б"),
  (0x1E053, "в г д е ж з и к л о п с у ф х ц ч ш ъ ы ґ і ѕ џ ҫ ꙑ ұ"),
  (0x1EE00, "ا ب ج د"),
  (0x1EE05, "و ز ح ط ي ك ل م ن س ع ف ص ق ر ش ت ث خ ذ ض ظ غ ٮ ں ڡ ٯ"),
  (0x1EE21, "ب ج"),
  (0x1EE24, "ه"),
  (0x1EE27, "ح"),
  (0x1EE29, "ي ك ل م ن س ع ف ص ق"),
  (0x1EE34, "ش ت ث خ"),
  (0x1EE39, "ض"),
  (0x1EE3B, "غ"),
  (0x1EE42, "ج"),
  (0x1EE47, "ح"),
  (0x1EE49, "ي"),
  (0x1EE4B, "ل"),
  (0x1EE4D, "ن س ع"),
  (0x1EE51, "ص ق"),
  (0x1EE54, "ش"),
  (0x1EE57, "خ"),
  (0x1EE59, "ض"),
  (0x1EE5B, "غ"),
  (0x1EE5D, "ں"),
  (0x1EE5F, "ٯ"),
  (0x1EE61, "ب ج"),
  (0x1EE64, "ه"),
  (0x1EE67, "ح ط ي ك"),
  (0x1EE6C, "م ن س ع ف ص ق"),
  (0x1EE74, "ش ت ث خ"),
  (0x1EE79, "ض ظ غ ٮ"),
  (0x1EE7E, "ڡ"),
  (0x1EE80, "ا ب ج د ه و ز ح ط ي"),
  (0x1EE8B, "ل م ن س ع ف ص ق ر ش ت ث خ ذ ض ظ غ"),
  (0x1EEA1, "ب ج د"),
  (0x1EEA5, "و ز ح ط ي"),
  (0x1EEAB, "ل م ن س ع ف ص ق ر ش ت ث خ ذ ض ظ غ"),
  (0x1F101, "0, 1, 2, 3, 4, 5, 6, 7, 8, 9,"),
  (0x1F110, "(a) (b) (c) (d) (e) (f) (g) (h) (i) (j) (k) (l) (m) (n) (o) (p) (q)"),
  (0x1F121, "(r) (s) (t) (u) (v) (w) (x) (y) (z) 〔s〕 c r cd wz"),
  (0x1F130, "a b c d e f g h i j k l m n o p q r s t u v w x y z hv mv sd ss ppv wc"),
  (0x1F16A, "mc md mr"),
  (0x1F190, "dj"),
  (0x1F200, "ほか ココ サ"),
  (0x1F210, "手 字 双 デ 二 多 解 天 交 映 無 料 前 後 再 新 初 終 生 販 声 吹 演 投 捕 一 三 遊 左 中 右 指 走 打 禁"),
  (0x1F233, "空 合 満 有 月 申 割 営 配"),
  (0x1F240, "〔本〕 〔三〕 〔二〕 〔安〕 〔点〕 〔打〕 〔盗〕 〔勝〕 〔敗〕"),
  (0x1F250, "得 可"),
  (0x1FBF0, "0 1 2 3 4 5 6 7 8 9"),
  (0x2F800, "丽 丸 乁 𠄢 你 侮 侻 倂 偺 備 僧 像 㒞 𠘺 免 兔 兤 具 𠔜 㒹 內 再 𠕋 冗 冤 仌 冬 况 𩇟 凵 刃 㓟 刻 剆 割"),
  (0x2F823, "剷 㔕 勇 勉 勤 勺 包 匆 北 卉 卑 博 即 卽 卿 卿 卿 𠨬 灰 及 叟 𠭣 叫 叱 吆 咞 吸 呈 周 咢 哶 唐 啓 啣 善"),
  (0x2F846, "善 喙 喫 喳 嗂 圖 嘆 圗 噑 噴 切 壮 城 埴 堍 型 堲 報 墬 𡓤 売 壷 夆 多 夢 奢 𡚨 𡛪 姬 娛 娧 姘 婦 㛮 㛼"),
  (0x2F869, "嬈 嬾 嬾 𡧈 寃 寘 寧 寳 𡬘 寿 将 当 尢 㞁 屠 屮 峀 岍 𡷤 嵃 𡷦 嵮 嵫 嵼 巡 巢 㠯 巽 帨 帽 幩 㡢 𢆃 㡼 庰"),
  (0x2F88C, "庳 庶 廊 𪎒 廾 𢌱 𢌱 舁 弢 弢 㣇 𣊸 𦇚 形 彫 㣣 徚 忍 志 忹 悁 㤺 㤜 悔 𢛔 惇 慈 慌 慎 慌 慺 憎 憲 憤 憯"),
  (0x2F8AF, "懞 懲 懶 成 戛 扝 抱 拔 捐 𢬌 挽 拼 捨 掃 揤 𢯱 搢 揅 掩 㨮 摩 摾 撝 摷 㩬 敏 敬 𣀊 旣 書 晉 㬙 暑 㬈 㫤"),
  (0x2F8D2, "冒 冕 最 暜 肭 䏙 朗 望 朡 杞 杓 𣏃 㭉 柺 枅 桒 梅 𣑭 梎 栟 椔 㮝 楂 榣 槪 檨 𣚣 櫛 㰘 次 𣢧 歔 㱎 歲 殟"),
  (0x2F8F5, "殺 殻 𣪍 𡴋 𣫺 汎 𣲼 沿 泍 汧 洖 派 海 流 浩 浸 涅 𣴞 洴 港 湮 㴳 滋 滇 𣻑 淹 潮 𣽞 𣾎 濆 瀹 瀞 瀛 㶖 灊"),
  (0x2F918, "災 灷 炭 𠔥 煅 𤉣 熜 𤎫 爨 爵 牐 𤘈 犀 犕 𤜵 𤠔 獺 王 㺬 玥 㺸 㺸 瑇 瑜 瑱 璅 瓊 㼛 甤 𤰶 甾 𤲒 異 𢆟 瘐"),
  (0x2F93B, "𤾡 𤾸 𥁄 㿼 䀈 直 𥃳 𥃲 𥄙 𥄳 眞 真 真 睊 䀹 瞋 䁆 䂖 𥐝 硎 碌 磌 䃣 𥘦 祖 𥚚 𥛅 福 秫 䄯 穀 穊 穏 𥥼 𥪧"),
  (0x2F95E, "𥪧 竮 䈂 𥮫 篆 築 䈧 𥲀 糒 䊠 糨 糣 紀 𥾆 絣 䌁 緇 縂 繅 䌴 𦈨 𦉇 䍙 𦋙 罺 𦌾 羕 翺 者 𦓚 𦔣 聠 𦖨 聰 𣍟"),
  (0x2F981, "䏕 育 脃 䐋 脾 媵 𦞧 𦞵 𣎓 𣎜 舁 舄 辞 䑫 芑 芋 芝 劳 花 芳 芽 苦 𦬼 若 茝 荣 莭 茣 莽 菧 著 荓 菊 菌 菜"),
  (0x2F9A4, "𦰶 𦵫 𦳕 䔫 蓱 蓳 蔖 𧏊 蕤 𦼬 䕝 䕡 𦾱 𧃒 䕫 虐 虜 虧 虩 蚩 蚈 蜎 蛢 蝹 蜨 蝫 螆 䗗 蟡 蠁 䗹 衠 衣 𧙧 裗"),
  (0x2F9C7, "裞 䘵 裺 㒻 𧢮 𧥦 䚾 䛇 誠 諭 變 豕 𧲨 貫 賁 贛 起 𧼯 𠠄 跋 趼 跰 𠣞 軔 輸 𨗒 𨗭 邔 郱 鄑 𨜮 鄛 鈸 鋗 鋘"),
  (0x2F9EA, "鉼 鏹 鐕 𨯺 開 䦕 閷 𨵷 䧦 雃 嶲 霣 𩅅 𩈚 䩮 䩶 韠 𩐊 䪲 𩒖 頋 頋 頩 𩖶 飢 䬳 餩 馧 駂 駾 䯎 𩬰 鬒 鱀 鳽"),
  (0x2FA0D, "䳎 䳭 鵧 𪃎 䳸 𪄅 𪈎 𪊑 麻 䵖 黹 黾 鼅 鼏 鼖 鼻 𪘀")]

/-- What a character is replaced by, if it is in a run. -/
def replacement? (c : Char) : Option (List Char) :=
  replacements.findSome? fun (first, texts) =>
    if first ≤ c.toNat && c.toNat < first + texts.length then
      (Text.cut ' ' texts.toList)[c.toNat - first]?
    else none

/-- The characters that stand for one character of a domain name; nothing if it may not stand
there. -/
def mapChar (c : Char) : Option (List Char) :=
  if c.toNat < 0x80 then some [c.toLower]
  else if Text.inRanges ignoredRanges c.toNat then some []
  else if Text.isUnassigned c || Text.inRanges refusedRanges c.toNat then none
  else if Text.inRanges keptCapitals c.toNat then some [c]
  else some ((replacement? c).getD (Text.lowerChar c))

end Ingest.Url.Domain
