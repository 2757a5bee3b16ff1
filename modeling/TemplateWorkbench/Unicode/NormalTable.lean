/-!
# Tables of the normal form

How the characters of identifiers are taken apart and put together, by version 14 of the Unicode
character database.  The tables of characters are lines of words.  In the one, every word is a
character followed by the characters that it is a variant of; in the other, a character followed by
the two that it is put together from.  The syllables that are computed are left out.
-/

namespace TemplateWorkbench.Unicode

/-- Characters with what they are variants of, in ascending order. -/
def variantLines : List String := [
  "ªa µμ ºo ĲIJ ĳij ĿL· ŀl· ŉʼn ſs ǄDŽ ǅDž ǆdž ǇLJ ǈLj ǉlj ǊNJ ǋNj ǌnj ǱDZ ǲDz ǳdz ʰh ʱɦ ʲj",
  "ʳr ʴɹ ʵɻ ʶʁ ʷw ʸy ˠɣ ˡl ˢs ˣx ˤʕ ̀̀ ́́ ̓̓ ̈́̈́ ʹʹ ·· ϐβ ϑθ ϒΥ ϕφ ϖπ ϰκ ϱρ ϲς ϴΘ ϵε ϹΣ ևեւ ٵاٴ",
  "ٶوٴ ٷۇٴ ٸيٴ क़क़ ख़ख़ ग़ग़ ज़ज़ ड़ड़ ढ़ढ़ फ़फ़ य़य़ ড়ড় ঢ়ঢ় য়য় ਲ਼ਲ਼ ਸ਼ਸ਼ ਖ਼ਖ਼ ਗ਼ਗ਼ ਜ਼ਜ਼ ਫ਼ਫ਼ ଡ଼ଡ଼ ଢ଼ଢ଼ ำํา",
  "ຳໍາ ໜຫນ ໝຫມ གྷགྷ ཌྷཌྷ དྷདྷ བྷབྷ ཛྷཛྷ ཀྵཀྵ ཱཱིི ཱཱུུ ྲྀྲྀ ཷྲཱྀ ླྀླྀ ཹླཱྀ ཱཱྀྀ ྒྷྒྷ ྜྷྜྷ ྡྷྡྷ ྦྷྦྷ ྫྷྫྷ ྐྵྐྵ ჼნ",
  "ᴬA ᴭÆ ᴮB ᴰD ᴱE ᴲƎ ᴳG ᴴH ᴵI ᴶJ ᴷK ᴸL ᴹM ᴺN ᴼO ᴽȢ ᴾP ᴿR ᵀT ᵁU ᵂW ᵃa ᵄɐ ᵅɑ ᵆᴂ ᵇb ᵈd ᵉe ᵊə ᵋɛ ᵌɜ",
  "ᵍg ᵏk ᵐm ᵑŋ ᵒo ᵓɔ ᵔᴖ ᵕᴗ ᵖp ᵗt ᵘu ᵙᴝ ᵚɯ ᵛv ᵜᴥ ᵝβ ᵞγ ᵟδ ᵠφ ᵡχ ᵢi ᵣr ᵤu ᵥv ᵦβ ᵧγ ᵨρ ᵩφ ᵪχ ᵸн ᶛɒ",
  "ᶜc ᶝɕ ᶞð ᶟɜ ᶠf ᶡɟ ᶢɡ ᶣɥ ᶤɨ ᶥɩ ᶦɪ ᶧᵻ ᶨʝ ᶩɭ ᶪᶅ ᶫʟ ᶬɱ ᶭɰ ᶮɲ ᶯɳ ᶰɴ ᶱɵ ᶲɸ ᶳʂ ᶴʃ ᶵƫ ᶶʉ ᶷʊ ᶸᴜ ᶹʋ ᶺʌ",
  "ᶻz ᶼʐ ᶽʑ ᶾʒ ᶿθ ẚaʾ άά έέ ήή ίί όό ύύ ώώ ΆΆ ιι ΈΈ ΉΉ ΐΐ ΊΊ ΰΰ ΎΎ ΌΌ ΏΏ ⁱi",
  "ⁿn ₐa ₑe ₒo ₓx ₔə ₕh ₖk ₗl ₘm ₙn ₚp ₛs ₜt ℂC ℇƐ ℊg ℋH ℌH ℍH ℎh ℏħ ℐI ℑI ℒL ℓl ℕN ℙP ℚQ ℛR ℜR",
  "ℝR ℤZ ΩΩ ℨZ KK ÅÅ ℬB ℭC ℯe ℰE ℱF ℳM ℴo ℵא ℶב ℷג ℸד ℹi ℼπ ℽγ ℾΓ ℿΠ ⅅD ⅆd ⅇe ⅈi ⅉj ⅠI ⅡII",
  "ⅢIII ⅣIV ⅤV ⅥVI ⅦVII ⅧVIII ⅨIX ⅩX ⅪXI ⅫXII ⅬL ⅭC ⅮD ⅯM ⅰi ⅱii ⅲiii ⅳiv ⅴv ⅵvi ⅶvii ⅷviii ⅸix",
  "ⅹx ⅺxi ⅻxii ⅼl ⅽc ⅾd ⅿm ⱼj ⱽV ⵯⵡ 〸十 〹卄 〺卅 ゟより ヿコト ㄱᄀ ㄲᄁ ㄳᆪ ㄴᄂ ㄵᆬ ㄶᆭ ㄷᄃ ㄸᄄ ㄹᄅ ㄺᆰ ㄻᆱ ㄼᆲ ㄽᆳ ㄾᆴ",
  "ㄿᆵ ㅀᄚ ㅁᄆ ㅂᄇ ㅃᄈ ㅄᄡ ㅅᄉ ㅆᄊ ㅇᄋ ㅈᄌ ㅉᄍ ㅊᄎ ㅋᄏ ㅌᄐ ㅍᄑ ㅎᄒ ㅏᅡ ㅐᅢ ㅑᅣ ㅒᅤ ㅓᅥ ㅔᅦ ㅕᅧ ㅖᅨ ㅗᅩ ㅘᅪ ㅙᅫ ㅚᅬ ㅛᅭ ㅜᅮ ㅝᅯ",
  "ㅞᅰ ㅟᅱ ㅠᅲ ㅡᅳ ㅢᅴ ㅣᅵ ㅤᅠ ㅥᄔ ㅦᄕ ㅧᇇ ㅨᇈ ㅩᇌ ㅪᇎ ㅫᇓ ㅬᇗ ㅭᇙ ㅮᄜ ㅯᇝ ㅰᇟ ㅱᄝ ㅲᄞ ㅳᄠ ㅴᄢ ㅵᄣ ㅶᄧ ㅷᄩ ㅸᄫ ㅹᄬ ㅺᄭ ㅻᄮ ㅼᄯ",
  "ㅽᄲ ㅾᄶ ㅿᅀ ㆀᅇ ㆁᅌ ㆂᇱ ㆃᇲ ㆄᅗ ㆅᅘ ㆆᅙ ㆇᆄ ㆈᆅ ㆉᆈ ㆊᆑ ㆋᆒ ㆌᆔ ㆍᆞ ㆎᆡ ꚜъ ꚝь ꝰꝯ ꟲC ꟳF ꟴQ ꟸĦ ꟹœ ꭜꜧ ꭝꬷ ꭞɫ ꭟꭒ ꭩʍ",
  "豈豈 更更 車車 賈賈 滑滑 串串 句句 龜龜 龜龜 契契 金金 喇喇 奈奈 懶懶 癩癩 羅羅 蘿蘿 螺螺 裸裸 邏邏 樂樂 洛洛 烙烙 珞珞 落落 酪酪 駱駱 亂亂 卵卵 欄欄 爛爛",
  "蘭蘭 鸞鸞 嵐嵐 濫濫 藍藍 襤襤 拉拉 臘臘 蠟蠟 廊廊 朗朗 浪浪 狼狼 郎郎 來來 冷冷 勞勞 擄擄 櫓櫓 爐爐 盧盧 老老 蘆蘆 虜虜 路路 露露 魯魯 鷺鷺 碌碌 祿祿 綠綠",
  "菉菉 錄錄 鹿鹿 論論 壟壟 弄弄 籠籠 聾聾 牢牢 磊磊 賂賂 雷雷 壘壘 屢屢 樓樓 淚淚 漏漏 累累 縷縷 陋陋 勒勒 肋肋 凜凜 凌凌 稜稜 綾綾 菱菱 陵陵 讀讀 拏拏 樂樂",
  "諾諾 丹丹 寧寧 怒怒 率率 異異 北北 磻磻 便便 復復 不不 泌泌 數數 索索 參參 塞塞 省省 葉葉 說說 殺殺 辰辰 沈沈 拾拾 若若 掠掠 略略 亮亮 兩兩 凉凉 梁梁 糧糧",
  "良良 諒諒 量量 勵勵 呂呂 女女 廬廬 旅旅 濾濾 礪礪 閭閭 驪驪 麗麗 黎黎 力力 曆曆 歷歷 轢轢 年年 憐憐 戀戀 撚撚 漣漣 煉煉 璉璉 秊秊 練練 聯聯 輦輦 蓮蓮 連連",
  "鍊鍊 列列 劣劣 咽咽 烈烈 裂裂 說說 廉廉 念念 捻捻 殮殮 簾簾 獵獵 令令 囹囹 寧寧 嶺嶺 怜怜 玲玲 瑩瑩 羚羚 聆聆 鈴鈴 零零 靈靈 領領 例例 禮禮 醴醴 隸隸 惡惡",
  "了了 僚僚 寮寮 尿尿 料料 樂樂 燎燎 療療 蓼蓼 遼遼 龍龍 暈暈 阮阮 劉劉 杻杻 柳柳 流流 溜溜 琉琉 留留 硫硫 紐紐 類類 六六 戮戮 陸陸 倫倫 崙崙 淪淪 輪輪 律律",
  "慄慄 栗栗 率率 隆隆 利利 吏吏 履履 易易 李李 梨梨 泥泥 理理 痢痢 罹罹 裏裏 裡裡 里里 離離 匿匿 溺溺 吝吝 燐燐 璘璘 藺藺 隣隣 鱗鱗 麟麟 林林 淋淋 臨臨 立立",
  "笠笠 粒粒 狀狀 炙炙 識識 什什 茶茶 刺刺 切切 度度 拓拓 糖糖 宅宅 洞洞 暴暴 輻輻 行行 降降 見見 廓廓 兀兀 嗀嗀 塚塚 晴晴 凞凞 猪猪 益益 礼礼 神神 祥祥 福福",
  "靖靖 精精 羽羽 蘒蘒 諸諸 逸逸 都都 飯飯 飼飼 館館 鶴鶴 郞郞 隷隷 侮侮 僧僧 免免 勉勉 勤勤 卑卑 喝喝 嘆嘆 器器 塀塀 墨墨 層層 屮屮 悔悔 慨慨 憎憎 懲懲 敏敏",
  "既既 暑暑 梅梅 海海 渚渚 漢漢 煮煮 爫爫 琢琢 碑碑 社社 祉祉 祈祈 祐祐 祖祖 祝祝 禍禍 禎禎 穀穀 突突 節節 練練 縉縉 繁繁 署署 者者 臭臭 艹艹 艹艹 著著 褐褐",
  "視視 謁謁 謹謹 賓賓 贈贈 辶辶 逸逸 難難 響響 頻頻 恵恵 𤋮𤋮 舘舘 並並 况况 全全 侀侀 充充 冀冀 勇勇 勺勺 喝喝 啕啕 喙喙 嗢嗢 塚塚 墳墳 奄奄 奔奔 婢婢 嬨嬨",
  "廒廒 廙廙 彩彩 徭徭 惘惘 慎慎 愈愈 憎憎 慠慠 懲懲 戴戴 揄揄 搜搜 摒摒 敖敖 晴晴 朗朗 望望 杖杖 歹歹 殺殺 流流 滛滛 滋滋 漢漢 瀞瀞 煮煮 瞧瞧 爵爵 犯犯 猪猪",
  "瑱瑱 甆甆 画画 瘝瘝 瘟瘟 益益 盛盛 直直 睊睊 着着 磌磌 窱窱 節節 类类 絛絛 練練 缾缾 者者 荒荒 華華 蝹蝹 襁襁 覆覆 視視 調調 諸諸 請請 謁謁 諾諾 諭諭 謹謹",
  "變變 贈贈 輸輸 遲遲 醙醙 鉶鉶 陼陼 難難 靖靖 韛韛 響響 頋頋 頻頻 鬒鬒 龜龜 𢡊𢡊 𢡄𢡄 𣏕𣏕 㮝㮝 䀘䀘 䀹䀹 𥉉𥉉 𥳐𥳐 𧻓𧻓 齃齃 龎龎 ﬀff ﬁfi ﬂfl",
  "ﬃffi ﬄffl ﬅst ﬆst ﬓմն ﬔմե ﬕմի ﬖվն ﬗմխ יִיִ ײַײַ ﬠע ﬡא ﬢד ﬣה ﬤכ ﬥל ﬦם ﬧר ﬨת שׁשׁ שׂשׂ שּׁשּׁ שּׂשּׂ",
  "אַאַ אָאָ אּאּ בּבּ גּגּ דּדּ הּהּ וּוּ זּזּ טּטּ יּיּ ךּךּ כּכּ לּלּ מּמּ נּנּ סּסּ ףּףּ פּפּ צּצּ קּקּ רּרּ שּשּ",
  "תּתּ וֹוֹ בֿבֿ כֿכֿ פֿפֿ ﭏאל ﭐٱ ﭑٱ ﭒٻ ﭓٻ ﭔٻ ﭕٻ ﭖپ ﭗپ ﭘپ ﭙپ ﭚڀ ﭛڀ ﭜڀ ﭝڀ ﭞٺ ﭟٺ ﭠٺ ﭡٺ ﭢٿ ﭣٿ ﭤٿ ﭥٿ ﭦٹ",
  "ﭧٹ ﭨٹ ﭩٹ ﭪڤ ﭫڤ ﭬڤ ﭭڤ ﭮڦ ﭯڦ ﭰڦ ﭱڦ ﭲڄ ﭳڄ ﭴڄ ﭵڄ ﭶڃ ﭷڃ ﭸڃ ﭹڃ ﭺچ ﭻچ ﭼچ ﭽچ ﭾڇ ﭿڇ ﮀڇ ﮁڇ ﮂڍ ﮃڍ ﮄڌ ﮅڌ",
  "ﮆڎ ﮇڎ ﮈڈ ﮉڈ ﮊژ ﮋژ ﮌڑ ﮍڑ ﮎک ﮏک ﮐک ﮑک ﮒگ ﮓگ ﮔگ ﮕگ ﮖڳ ﮗڳ ﮘڳ ﮙڳ ﮚڱ ﮛڱ ﮜڱ ﮝڱ ﮞں ﮟں ﮠڻ ﮡڻ ﮢڻ ﮣڻ",
  "ﮤۀ ﮥۀ ﮦہ ﮧہ ﮨہ ﮩہ ﮪھ ﮫھ ﮬھ ﮭھ ﮮے ﮯے ﮰۓ ﮱۓ ﯓڭ ﯔڭ ﯕڭ ﯖڭ ﯗۇ ﯘۇ ﯙۆ ﯚۆ ﯛۈ ﯜۈ ﯝۇٴ ﯞۋ ﯟۋ ﯠۅ ﯡۅ",
  "ﯢۉ ﯣۉ ﯤې ﯥې ﯦې ﯧې ﯨى ﯩى ﯪئا ﯫئا ﯬئە ﯭئە ﯮئو ﯯئو ﯰئۇ ﯱئۇ ﯲئۆ ﯳئۆ ﯴئۈ ﯵئۈ ﯶئې",
  "ﯷئې ﯸئې ﯹئى ﯺئى ﯻئى ﯼی ﯽی ﯾی ﯿی ﰀئج ﰁئح ﰂئم ﰃئى ﰄئي ﰅبج ﰆبح ﰇبخ ﰈبم ﰉبى ﰊبي ﰋتج",
  "ﰌتح ﰍتخ ﰎتم ﰏتى ﰐتي ﰑثج ﰒثم ﰓثى ﰔثي ﰕجح ﰖجم ﰗحج ﰘحم ﰙخج ﰚخح ﰛخم ﰜسج ﰝسح ﰞسخ ﰟسم ﰠصح ﰡصم ﰢضج",
  "ﰣضح ﰤضخ ﰥضم ﰦطح ﰧطم ﰨظم ﰩعج ﰪعم ﰫغج ﰬغم ﰭفج ﰮفح ﰯفخ ﰰفم ﰱفى ﰲفي ﰳقح ﰴقم ﰵقى ﰶقي ﰷكا ﰸكج ﰹكح",
  "ﰺكخ ﰻكل ﰼكم ﰽكى ﰾكي ﰿلج ﱀلح ﱁلخ ﱂلم ﱃلى ﱄلي ﱅمج ﱆمح ﱇمخ ﱈمم ﱉمى ﱊمي ﱋنج ﱌنح ﱍنخ ﱎنم ﱏنى ﱐني",
  "ﱑهج ﱒهم ﱓهى ﱔهي ﱕيج ﱖيح ﱗيخ ﱘيم ﱙيى ﱚيي ﱛذٰ ﱜرٰ ﱝىٰ ﱤئر ﱥئز ﱦئم ﱧئن ﱨئى ﱩئي ﱪبر ﱫبز",
  "ﱬبم ﱭبن ﱮبى ﱯبي ﱰتر ﱱتز ﱲتم ﱳتن ﱴتى ﱵتي ﱶثر ﱷثز ﱸثم ﱹثن ﱺثى ﱻثي ﱼفى ﱽفي ﱾقى ﱿقي ﲀكا ﲁكل ﲂكم",
  "ﲃكى ﲄكي ﲅلم ﲆلى ﲇلي ﲈما ﲉمم ﲊنر ﲋنز ﲌنم ﲍنن ﲎنى ﲏني ﲐىٰ ﲑير ﲒيز ﲓيم ﲔين ﲕيى ﲖيي ﲗئج ﲘئح",
  "ﲙئخ ﲚئم ﲛئه ﲜبج ﲝبح ﲞبخ ﲟبم ﲠبه ﲡتج ﲢتح ﲣتخ ﲤتم ﲥته ﲦثم ﲧجح ﲨجم ﲩحج ﲪحم ﲫخج ﲬخم ﲭسج ﲮسح",
  "ﲯسخ ﲰسم ﲱصح ﲲصخ ﲳصم ﲴضج ﲵضح ﲶضخ ﲷضم ﲸطح ﲹظم ﲺعج ﲻعم ﲼغج ﲽغم ﲾفج ﲿفح ﳀفخ ﳁفم ﳂقح ﳃقم ﳄكج ﳅكح",
  "ﳆكخ ﳇكل ﳈكم ﳉلج ﳊلح ﳋلخ ﳌلم ﳍله ﳎمج ﳏمح ﳐمخ ﳑمم ﳒنج ﳓنح ﳔنخ ﳕنم ﳖنه ﳗهج ﳘهم ﳙهٰ ﳚيج ﳛيح ﳜيخ",
  "ﳝيم ﳞيه ﳟئم ﳠئه ﳡبم ﳢبه ﳣتم ﳤته ﳥثم ﳦثه ﳧسم ﳨسه ﳩشم ﳪشه ﳫكل ﳬكم ﳭلم ﳮنم ﳯنه ﳰيم ﳱيه ﳲـَّ",
  "ﳳـُّ ﳴـِّ ﳵطى ﳶطي ﳷعى ﳸعي ﳹغى ﳺغي ﳻسى ﳼسي ﳽشى ﳾشي ﳿحى ﴀحي ﴁجى ﴂجي ﴃخى ﴄخي ﴅصى ﴆصي ﴇضى ﴈضي",
  "ﴉشج ﴊشح ﴋشخ ﴌشم ﴍشر ﴎسر ﴏصر ﴐضر ﴑطى ﴒطي ﴓعى ﴔعي ﴕغى ﴖغي ﴗسى ﴘسي ﴙشى ﴚشي ﴛحى ﴜحي ﴝجى ﴞجي ﴟخى",
  "ﴠخي ﴡصى ﴢصي ﴣضى ﴤضي ﴥشج ﴦشح ﴧشخ ﴨشم ﴩشر ﴪسر ﴫصر ﴬضر ﴭشج ﴮشح ﴯشخ ﴰشم ﴱسه ﴲشه ﴳطم ﴴسج ﴵسح ﴶسخ",
  "ﴷشج ﴸشح ﴹشخ ﴺطم ﴻظم ﴼاً ﴽاً ﵐتجم ﵑتحج ﵒتحج ﵓتحم ﵔتخم ﵕتمج ﵖتمح ﵗتمخ ﵘجمح ﵙجمح ﵚحمي ﵛحمى ﵜسحج",
  "ﵝسجح ﵞسجى ﵟسمح ﵠسمح ﵡسمج ﵢسمم ﵣسمم ﵤصحح ﵥصحح ﵦصمم ﵧشحم ﵨشحم ﵩشجي ﵪشمخ ﵫشمخ ﵬشمم ﵭشمم ﵮضحى",
  "ﵯضخم ﵰضخم ﵱطمح ﵲطمح ﵳطمم ﵴطمي ﵵعجم ﵶعمم ﵷعمم ﵸعمى ﵹغمم ﵺغمي ﵻغمى ﵼفخم ﵽفخم ﵾقمح ﵿقمم ﶀلحم",
  "ﶁلحي ﶂلحى ﶃلجج ﶄلجج ﶅلخم ﶆلخم ﶇلمح ﶈلمح ﶉمحج ﶊمحم ﶋمحي ﶌمجح ﶍمجم ﶎمخج ﶏمخم ﶒمجخ ﶓهمج ﶔهمم",
  "ﶕنحم ﶖنحى ﶗنجم ﶘنجم ﶙنجى ﶚنمي ﶛنمى ﶜيمم ﶝيمم ﶞبخي ﶟتجي ﶠتجى ﶡتخي ﶢتخى ﶣتمي ﶤتمى ﶥجمي ﶦجحى",
  "ﶧجمى ﶨسخى ﶩصحي ﶪشحي ﶫضحي ﶬلجي ﶭلمي ﶮيحي ﶯيجي ﶰيمي ﶱممي ﶲقمي ﶳنحي ﶴقمح ﶵلحم ﶶعمي ﶷكمي ﶸنجح",
  "ﶹمخي ﶺلجم ﶻكمم ﶼلجم ﶽنجح ﶾجحي ﶿحجي ﷀمجي ﷁفمي ﷂبحي ﷃكمم ﷄعجم ﷅصمم ﷆسخي ﷇنجي ﷰصلے ﷱقلے ﷲالله",
  "ﷳاكبر ﷴمحمد ﷵصلعم ﷶرسول ﷷعليه ﷸوسلم ﷹصلى ︳_ ︴_ ﹍_ ﹎_ ﹏_ ﹱـً ﹷـَ ﹹـُ ﹻـِ ﹽـّ ﹿـْ ﺀء ﺁآ ﺂآ",
  "ﺃأ ﺄأ ﺅؤ ﺆؤ ﺇإ ﺈإ ﺉئ ﺊئ ﺋئ ﺌئ ﺍا ﺎا ﺏب ﺐب ﺑب ﺒب ﺓة ﺔة ﺕت ﺖت ﺗت ﺘت ﺙث ﺚث ﺛث ﺜث ﺝج",
  "ﺞج ﺟج ﺠج ﺡح ﺢح ﺣح ﺤح ﺥخ ﺦخ ﺧخ ﺨخ ﺩد ﺪد ﺫذ ﺬذ ﺭر ﺮر ﺯز ﺰز ﺱس ﺲس ﺳس ﺴس ﺵش ﺶش ﺷش ﺸش ﺹص ﺺص ﺻص ﺼص",
  "ﺽض ﺾض ﺿض ﻀض ﻁط ﻂط ﻃط ﻄط ﻅظ ﻆظ ﻇظ ﻈظ ﻉع ﻊع ﻋع ﻌع ﻍغ ﻎغ ﻏغ ﻐغ ﻑف ﻒف ﻓف ﻔف ﻕق ﻖق ﻗق ﻘق ﻙك ﻚك ﻛك",
  "ﻜك ﻝل ﻞل ﻟل ﻠل ﻡم ﻢم ﻣم ﻤم ﻥن ﻦن ﻧن ﻨن ﻩه ﻪه ﻫه ﻬه ﻭو ﻮو ﻯى ﻰى ﻱي ﻲي ﻳي ﻴي ﻵلآ ﻶلآ ﻷلأ",
  "ﻸلأ ﻹلإ ﻺلإ ﻻلا ﻼلا ０0 １1 ２2 ３3 ４4 ５5 ６6 ７7 ８8 ９9 ＡA ＢB ＣC ＤD ＥE ＦF ＧG ＨH ＩI ＪJ ＫK ＬL ＭM",
  "ＮN ＯO ＰP ＱQ ＲR ＳS ＴT ＵU ＶV ＷW ＸX ＹY ＺZ ＿_ ａa ｂb ｃc ｄd ｅe ｆf ｇg ｈh ｉi ｊj ｋk ｌl ｍm ｎn ｏo ｐp ｑq",
  "ｒr ｓs ｔt ｕu ｖv ｗw ｘx ｙy ｚz ｦヲ ｧァ ｨィ ｩゥ ｪェ ｫォ ｬャ ｭュ ｮョ ｯッ ｰー ｱア ｲイ ｳウ ｴエ ｵオ ｶカ ｷキ ｸク ｹケ ｺコ ｻサ",
  "ｼシ ｽス ｾセ ｿソ ﾀタ ﾁチ ﾂツ ﾃテ ﾄト ﾅナ ﾆニ ﾇヌ ﾈネ ﾉノ ﾊハ ﾋヒ ﾌフ ﾍヘ ﾎホ ﾏマ ﾐミ ﾑム ﾒメ ﾓモ ﾔヤ ﾕユ ﾖヨ ﾗラ ﾘリ ﾙル ﾚレ",
  "ﾛロ ﾜワ ﾝン ﾞ゙ ﾟ゚ ﾠᅠ ﾡᄀ ﾢᄁ ﾣᆪ ﾤᄂ ﾥᆬ ﾦᆭ ﾧᄃ ﾨᄄ ﾩᄅ ﾪᆰ ﾫᆱ ﾬᆲ ﾭᆳ ﾮᆴ ﾯᆵ ﾰᄚ ﾱᄆ ﾲᄇ ﾳᄈ ﾴᄡ ﾵᄉ ﾶᄊ ﾷᄋ ﾸᄌ ﾹᄍ",
  "ﾺᄎ ﾻᄏ ﾼᄐ ﾽᄑ ﾾᄒ ￂᅡ ￃᅢ ￄᅣ ￅᅤ ￆᅥ ￇᅦ ￊᅧ ￋᅨ ￌᅩ ￍᅪ ￎᅫ ￏᅬ ￒᅭ ￓᅮ ￔᅯ ￕᅰ ￖᅱ ￗᅲ ￚᅳ ￛᅴ ￜᅵ 𐞁ː 𐞂ˑ 𐞃æ 𐞄ʙ 𐞅ɓ",
  "𐞇ʣ 𐞈ꭦ 𐞉ʥ 𐞊ʤ 𐞋ɖ 𐞌ɗ 𐞍ᶑ 𐞎ɘ 𐞏ɞ 𐞐ʩ 𐞑ɤ 𐞒ɢ 𐞓ɠ 𐞔ʛ 𐞕ħ 𐞖ʜ 𐞗ɧ 𐞘ʄ 𐞙ʪ 𐞚ʫ 𐞛ɬ 𐞜𝼄 𐞝ꞎ 𐞞ɮ 𐞟𝼅 𐞠ʎ 𐞡𝼆 𐞢ø 𐞣ɶ 𐞤ɷ 𐞥q",
  "𐞦ɺ 𐞧𝼈 𐞨ɽ 𐞩ɾ 𐞪ʀ 𐞫ʨ 𐞬ʦ 𐞭ꭧ 𐞮ʧ 𐞯ʈ 𐞰ⱱ 𐞲ʏ 𐞳ʡ 𐞴ʢ 𐞵ʘ 𐞶ǀ 𐞷ǁ 𐞸ǂ 𐞹𝼊 𐞺𝼞 𝐀A 𝐁B 𝐂C 𝐃D 𝐄E 𝐅F 𝐆G 𝐇H 𝐈I 𝐉J 𝐊K",
  "𝐋L 𝐌M 𝐍N 𝐎O 𝐏P 𝐐Q 𝐑R 𝐒S 𝐓T 𝐔U 𝐕V 𝐖W 𝐗X 𝐘Y 𝐙Z 𝐚a 𝐛b 𝐜c 𝐝d 𝐞e 𝐟f 𝐠g 𝐡h 𝐢i 𝐣j 𝐤k 𝐥l 𝐦m 𝐧n 𝐨o 𝐩p",
  "𝐪q 𝐫r 𝐬s 𝐭t 𝐮u 𝐯v 𝐰w 𝐱x 𝐲y 𝐳z 𝐴A 𝐵B 𝐶C 𝐷D 𝐸E 𝐹F 𝐺G 𝐻H 𝐼I 𝐽J 𝐾K 𝐿L 𝑀M 𝑁N 𝑂O 𝑃P 𝑄Q 𝑅R 𝑆S 𝑇T 𝑈U",
  "𝑉V 𝑊W 𝑋X 𝑌Y 𝑍Z 𝑎a 𝑏b 𝑐c 𝑑d 𝑒e 𝑓f 𝑔g 𝑖i 𝑗j 𝑘k 𝑙l 𝑚m 𝑛n 𝑜o 𝑝p 𝑞q 𝑟r 𝑠s 𝑡t 𝑢u 𝑣v 𝑤w 𝑥x 𝑦y 𝑧z 𝑨A",
  "𝑩B 𝑪C 𝑫D 𝑬E 𝑭F 𝑮G 𝑯H 𝑰I 𝑱J 𝑲K 𝑳L 𝑴M 𝑵N 𝑶O 𝑷P 𝑸Q 𝑹R 𝑺S 𝑻T 𝑼U 𝑽V 𝑾W 𝑿X 𝒀Y 𝒁Z 𝒂a 𝒃b 𝒄c 𝒅d 𝒆e 𝒇f",
  "𝒈g 𝒉h 𝒊i 𝒋j 𝒌k 𝒍l 𝒎m 𝒏n 𝒐o 𝒑p 𝒒q 𝒓r 𝒔s 𝒕t 𝒖u 𝒗v 𝒘w 𝒙x 𝒚y 𝒛z 𝒜A 𝒞C 𝒟D 𝒢G 𝒥J 𝒦K 𝒩N 𝒪O 𝒫P 𝒬Q 𝒮S",
  "𝒯T 𝒰U 𝒱V 𝒲W 𝒳X 𝒴Y 𝒵Z 𝒶a 𝒷b 𝒸c 𝒹d 𝒻f 𝒽h 𝒾i 𝒿j 𝓀k 𝓁l 𝓂m 𝓃n 𝓅p 𝓆q 𝓇r 𝓈s 𝓉t 𝓊u 𝓋v 𝓌w 𝓍x 𝓎y 𝓏z 𝓐A",
  "𝓑B 𝓒C 𝓓D 𝓔E 𝓕F 𝓖G 𝓗H 𝓘I 𝓙J 𝓚K 𝓛L 𝓜M 𝓝N 𝓞O 𝓟P 𝓠Q 𝓡R 𝓢S 𝓣T 𝓤U 𝓥V 𝓦W 𝓧X 𝓨Y 𝓩Z 𝓪a 𝓫b 𝓬c 𝓭d 𝓮e 𝓯f",
  "𝓰g 𝓱h 𝓲i 𝓳j 𝓴k 𝓵l 𝓶m 𝓷n 𝓸o 𝓹p 𝓺q 𝓻r 𝓼s 𝓽t 𝓾u 𝓿v 𝔀w 𝔁x 𝔂y 𝔃z 𝔄A 𝔅B 𝔇D 𝔈E 𝔉F 𝔊G 𝔍J 𝔎K 𝔏L 𝔐M 𝔑N",
  "𝔒O 𝔓P 𝔔Q 𝔖S 𝔗T 𝔘U 𝔙V 𝔚W 𝔛X 𝔜Y 𝔞a 𝔟b 𝔠c 𝔡d 𝔢e 𝔣f 𝔤g 𝔥h 𝔦i 𝔧j 𝔨k 𝔩l 𝔪m 𝔫n 𝔬o 𝔭p 𝔮q 𝔯r 𝔰s 𝔱t 𝔲u",
  "𝔳v 𝔴w 𝔵x 𝔶y 𝔷z 𝔸A 𝔹B 𝔻D 𝔼E 𝔽F 𝔾G 𝕀I 𝕁J 𝕂K 𝕃L 𝕄M 𝕆O 𝕊S 𝕋T 𝕌U 𝕍V 𝕎W 𝕏X 𝕐Y 𝕒a 𝕓b 𝕔c 𝕕d 𝕖e 𝕗f 𝕘g",
  "𝕙h 𝕚i 𝕛j 𝕜k 𝕝l 𝕞m 𝕟n 𝕠o 𝕡p 𝕢q 𝕣r 𝕤s 𝕥t 𝕦u 𝕧v 𝕨w 𝕩x 𝕪y 𝕫z 𝕬A 𝕭B 𝕮C 𝕯D 𝕰E 𝕱F 𝕲G 𝕳H 𝕴I 𝕵J 𝕶K 𝕷L",
  "𝕸M 𝕹N 𝕺O 𝕻P 𝕼Q 𝕽R 𝕾S 𝕿T 𝖀U 𝖁V 𝖂W 𝖃X 𝖄Y 𝖅Z 𝖆a 𝖇b 𝖈c 𝖉d 𝖊e 𝖋f 𝖌g 𝖍h 𝖎i 𝖏j 𝖐k 𝖑l 𝖒m 𝖓n 𝖔o 𝖕p 𝖖q",
  "𝖗r 𝖘s 𝖙t 𝖚u 𝖛v 𝖜w 𝖝x 𝖞y 𝖟z 𝖠A 𝖡B 𝖢C 𝖣D 𝖤E 𝖥F 𝖦G 𝖧H 𝖨I 𝖩J 𝖪K 𝖫L 𝖬M 𝖭N 𝖮O 𝖯P 𝖰Q 𝖱R 𝖲S 𝖳T 𝖴U 𝖵V",
  "𝖶W 𝖷X 𝖸Y 𝖹Z 𝖺a 𝖻b 𝖼c 𝖽d 𝖾e 𝖿f 𝗀g 𝗁h 𝗂i 𝗃j 𝗄k 𝗅l 𝗆m 𝗇n 𝗈o 𝗉p 𝗊q 𝗋r 𝗌s 𝗍t 𝗎u 𝗏v 𝗐w 𝗑x 𝗒y 𝗓z 𝗔A",
  "𝗕B 𝗖C 𝗗D 𝗘E 𝗙F 𝗚G 𝗛H 𝗜I 𝗝J 𝗞K 𝗟L 𝗠M 𝗡N 𝗢O 𝗣P 𝗤Q 𝗥R 𝗦S 𝗧T 𝗨U 𝗩V 𝗪W 𝗫X 𝗬Y 𝗭Z 𝗮a 𝗯b 𝗰c 𝗱d 𝗲e 𝗳f",
  "𝗴g 𝗵h 𝗶i 𝗷j 𝗸k 𝗹l 𝗺m 𝗻n 𝗼o 𝗽p 𝗾q 𝗿r 𝘀s 𝘁t 𝘂u 𝘃v 𝘄w 𝘅x 𝘆y 𝘇z 𝘈A 𝘉B 𝘊C 𝘋D 𝘌E 𝘍F 𝘎G 𝘏H 𝘐I 𝘑J 𝘒K",
  "𝘓L 𝘔M 𝘕N 𝘖O 𝘗P 𝘘Q 𝘙R 𝘚S 𝘛T 𝘜U 𝘝V 𝘞W 𝘟X 𝘠Y 𝘡Z 𝘢a 𝘣b 𝘤c 𝘥d 𝘦e 𝘧f 𝘨g 𝘩h 𝘪i 𝘫j 𝘬k 𝘭l 𝘮m 𝘯n 𝘰o 𝘱p",
  "𝘲q 𝘳r 𝘴s 𝘵t 𝘶u 𝘷v 𝘸w 𝘹x 𝘺y 𝘻z 𝘼A 𝘽B 𝘾C 𝘿D 𝙀E 𝙁F 𝙂G 𝙃H 𝙄I 𝙅J 𝙆K 𝙇L 𝙈M 𝙉N 𝙊O 𝙋P 𝙌Q 𝙍R 𝙎S 𝙏T 𝙐U",
  "𝙑V 𝙒W 𝙓X 𝙔Y 𝙕Z 𝙖a 𝙗b 𝙘c 𝙙d 𝙚e 𝙛f 𝙜g 𝙝h 𝙞i 𝙟j 𝙠k 𝙡l 𝙢m 𝙣n 𝙤o 𝙥p 𝙦q 𝙧r 𝙨s 𝙩t 𝙪u 𝙫v 𝙬w 𝙭x 𝙮y 𝙯z",
  "𝙰A 𝙱B 𝙲C 𝙳D 𝙴E 𝙵F 𝙶G 𝙷H 𝙸I 𝙹J 𝙺K 𝙻L 𝙼M 𝙽N 𝙾O 𝙿P 𝚀Q 𝚁R 𝚂S 𝚃T 𝚄U 𝚅V 𝚆W 𝚇X 𝚈Y 𝚉Z 𝚊a 𝚋b 𝚌c 𝚍d 𝚎e",
  "𝚏f 𝚐g 𝚑h 𝚒i 𝚓j 𝚔k 𝚕l 𝚖m 𝚗n 𝚘o 𝚙p 𝚚q 𝚛r 𝚜s 𝚝t 𝚞u 𝚟v 𝚠w 𝚡x 𝚢y 𝚣z 𝚤ı 𝚥ȷ 𝚨Α 𝚩Β 𝚪Γ 𝚫Δ 𝚬Ε 𝚭Ζ 𝚮Η 𝚯Θ",
  "𝚰Ι 𝚱Κ 𝚲Λ 𝚳Μ 𝚴Ν 𝚵Ξ 𝚶Ο 𝚷Π 𝚸Ρ 𝚹Θ 𝚺Σ 𝚻Τ 𝚼Υ 𝚽Φ 𝚾Χ 𝚿Ψ 𝛀Ω 𝛂α 𝛃β 𝛄γ 𝛅δ 𝛆ε 𝛇ζ 𝛈η 𝛉θ 𝛊ι 𝛋κ 𝛌λ 𝛍μ 𝛎ν 𝛏ξ",
  "𝛐ο 𝛑π 𝛒ρ 𝛓ς 𝛔σ 𝛕τ 𝛖υ 𝛗φ 𝛘χ 𝛙ψ 𝛚ω 𝛜ε 𝛝θ 𝛞κ 𝛟φ 𝛠ρ 𝛡π 𝛢Α 𝛣Β 𝛤Γ 𝛥Δ 𝛦Ε 𝛧Ζ 𝛨Η 𝛩Θ 𝛪Ι 𝛫Κ 𝛬Λ 𝛭Μ 𝛮Ν 𝛯Ξ",
  "𝛰Ο 𝛱Π 𝛲Ρ 𝛳Θ 𝛴Σ 𝛵Τ 𝛶Υ 𝛷Φ 𝛸Χ 𝛹Ψ 𝛺Ω 𝛼α 𝛽β 𝛾γ 𝛿δ 𝜀ε 𝜁ζ 𝜂η 𝜃θ 𝜄ι 𝜅κ 𝜆λ 𝜇μ 𝜈ν 𝜉ξ 𝜊ο 𝜋π 𝜌ρ 𝜍ς 𝜎σ 𝜏τ",
  "𝜐υ 𝜑φ 𝜒χ 𝜓ψ 𝜔ω 𝜖ε 𝜗θ 𝜘κ 𝜙φ 𝜚ρ 𝜛π 𝜜Α 𝜝Β 𝜞Γ 𝜟Δ 𝜠Ε 𝜡Ζ 𝜢Η 𝜣Θ 𝜤Ι 𝜥Κ 𝜦Λ 𝜧Μ 𝜨Ν 𝜩Ξ 𝜪Ο 𝜫Π 𝜬Ρ 𝜭Θ 𝜮Σ 𝜯Τ",
  "𝜰Υ 𝜱Φ 𝜲Χ 𝜳Ψ 𝜴Ω 𝜶α 𝜷β 𝜸γ 𝜹δ 𝜺ε 𝜻ζ 𝜼η 𝜽θ 𝜾ι 𝜿κ 𝝀λ 𝝁μ 𝝂ν 𝝃ξ 𝝄ο 𝝅π 𝝆ρ 𝝇ς 𝝈σ 𝝉τ 𝝊υ 𝝋φ 𝝌χ 𝝍ψ 𝝎ω 𝝐ε",
  "𝝑θ 𝝒κ 𝝓φ 𝝔ρ 𝝕π 𝝖Α 𝝗Β 𝝘Γ 𝝙Δ 𝝚Ε 𝝛Ζ 𝝜Η 𝝝Θ 𝝞Ι 𝝟Κ 𝝠Λ 𝝡Μ 𝝢Ν 𝝣Ξ 𝝤Ο 𝝥Π 𝝦Ρ 𝝧Θ 𝝨Σ 𝝩Τ 𝝪Υ 𝝫Φ 𝝬Χ 𝝭Ψ 𝝮Ω 𝝰α",
  "𝝱β 𝝲γ 𝝳δ 𝝴ε 𝝵ζ 𝝶η 𝝷θ 𝝸ι 𝝹κ 𝝺λ 𝝻μ 𝝼ν 𝝽ξ 𝝾ο 𝝿π 𝞀ρ 𝞁ς 𝞂σ 𝞃τ 𝞄υ 𝞅φ 𝞆χ 𝞇ψ 𝞈ω 𝞊ε 𝞋θ 𝞌κ 𝞍φ 𝞎ρ 𝞏π 𝞐Α",
  "𝞑Β 𝞒Γ 𝞓Δ 𝞔Ε 𝞕Ζ 𝞖Η 𝞗Θ 𝞘Ι 𝞙Κ 𝞚Λ 𝞛Μ 𝞜Ν 𝞝Ξ 𝞞Ο 𝞟Π 𝞠Ρ 𝞡Θ 𝞢Σ 𝞣Τ 𝞤Υ 𝞥Φ 𝞦Χ 𝞧Ψ 𝞨Ω 𝞪α 𝞫β 𝞬γ 𝞭δ 𝞮ε 𝞯ζ 𝞰η",
  "𝞱θ 𝞲ι 𝞳κ 𝞴λ 𝞵μ 𝞶ν 𝞷ξ 𝞸ο 𝞹π 𝞺ρ 𝞻ς 𝞼σ 𝞽τ 𝞾υ 𝞿φ 𝟀χ 𝟁ψ 𝟂ω 𝟄ε 𝟅θ 𝟆κ 𝟇φ 𝟈ρ 𝟉π 𝟊Ϝ 𝟋ϝ 𝟎0 𝟏1 𝟐2 𝟑3 𝟒4",
  "𝟓5 𝟔6 𝟕7 𝟖8 𝟗9 𝟘0 𝟙1 𝟚2 𝟛3 𝟜4 𝟝5 𝟞6 𝟟7 𝟠8 𝟡9 𝟢0 𝟣1 𝟤2 𝟥3 𝟦4 𝟧5 𝟨6 𝟩7 𝟪8 𝟫9 𝟬0 𝟭1 𝟮2 𝟯3 𝟰4 𝟱5",
  "𝟲6 𝟳7 𝟴8 𝟵9 𝟶0 𝟷1 𝟸2 𝟹3 𝟺4 𝟻5 𝟼6 𝟽7 𝟾8 𝟿9 𞸀ا 𞸁ب 𞸂ج 𞸃د 𞸅و 𞸆ز 𞸇ح 𞸈ط 𞸉ي 𞸊ك 𞸋ل 𞸌م 𞸍ن 𞸎س 𞸏ع 𞸐ف 𞸑ص",
  "𞸒ق 𞸓ر 𞸔ش 𞸕ت 𞸖ث 𞸗خ 𞸘ذ 𞸙ض 𞸚ظ 𞸛غ 𞸜ٮ 𞸝ں 𞸞ڡ 𞸟ٯ 𞸡ب 𞸢ج 𞸤ه 𞸧ح 𞸩ي 𞸪ك 𞸫ل 𞸬م 𞸭ن 𞸮س 𞸯ع 𞸰ف 𞸱ص 𞸲ق 𞸴ش 𞸵ت 𞸶ث",
  "𞸷خ 𞸹ض 𞸻غ 𞹂ج 𞹇ح 𞹉ي 𞹋ل 𞹍ن 𞹎س 𞹏ع 𞹑ص 𞹒ق 𞹔ش 𞹗خ 𞹙ض 𞹛غ 𞹝ں 𞹟ٯ 𞹡ب 𞹢ج 𞹤ه 𞹧ح 𞹨ط 𞹩ي 𞹪ك 𞹬م 𞹭ن 𞹮س 𞹯ع 𞹰ف 𞹱ص",
  "𞹲ق 𞹴ش 𞹵ت 𞹶ث 𞹷خ 𞹹ض 𞹺ظ 𞹻غ 𞹼ٮ 𞹾ڡ 𞺀ا 𞺁ب 𞺂ج 𞺃د 𞺄ه 𞺅و 𞺆ز 𞺇ح 𞺈ط 𞺉ي 𞺋ل 𞺌م 𞺍ن 𞺎س 𞺏ع 𞺐ف 𞺑ص 𞺒ق 𞺓ر 𞺔ش 𞺕ت",
  "𞺖ث 𞺗خ 𞺘ذ 𞺙ض 𞺚ظ 𞺛غ 𞺡ب 𞺢ج 𞺣د 𞺥و 𞺦ز 𞺧ح 𞺨ط 𞺩ي 𞺫ل 𞺬م 𞺭ن 𞺮س 𞺯ع 𞺰ف 𞺱ص 𞺲ق 𞺳ر 𞺴ش 𞺵ت 𞺶ث 𞺷خ 𞺸ذ 𞺹ض 𞺺ظ 𞺻غ",
  "🯰0 🯱1 🯲2 🯳3 🯴4 🯵5 🯶6 🯷7 🯸8 🯹9 丽丽 丸丸 乁乁 𠄢𠄢 你你 侮侮 侻侻 倂倂 偺偺 備備 僧僧 像像 㒞㒞 𠘺𠘺 免免 兔兔 兤兤 具具 𠔜𠔜 㒹㒹 內內",
  "再再 𠕋𠕋 冗冗 冤冤 仌仌 冬冬 况况 𩇟𩇟 凵凵 刃刃 㓟㓟 刻刻 剆剆 割割 剷剷 㔕㔕 勇勇 勉勉 勤勤 勺勺 包包 匆匆 北北 卉卉 卑卑 博博 即即 卽卽 卿卿 卿卿 卿卿",
  "𠨬𠨬 灰灰 及及 叟叟 𠭣𠭣 叫叫 叱叱 吆吆 咞咞 吸吸 呈呈 周周 咢咢 哶哶 唐唐 啓啓 啣啣 善善 善善 喙喙 喫喫 喳喳 嗂嗂 圖圖 嘆嘆 圗圗 噑噑 噴噴 切切 壮壮 城城",
  "埴埴 堍堍 型型 堲堲 報報 墬墬 𡓤𡓤 売売 壷壷 夆夆 多多 夢夢 奢奢 𡚨𡚨 𡛪𡛪 姬姬 娛娛 娧娧 姘姘 婦婦 㛮㛮 㛼㛼 嬈嬈 嬾嬾 嬾嬾 𡧈𡧈 寃寃 寘寘 寧寧 寳寳 𡬘𡬘",
  "寿寿 将将 当当 尢尢 㞁㞁 屠屠 屮屮 峀峀 岍岍 𡷤𡷤 嵃嵃 𡷦𡷦 嵮嵮 嵫嵫 嵼嵼 巡巡 巢巢 㠯㠯 巽巽 帨帨 帽帽 幩幩 㡢㡢 𢆃𢆃 㡼㡼 庰庰 庳庳 庶庶 廊廊 𪎒𪎒 廾廾",
  "𢌱𢌱 𢌱𢌱 舁舁 弢弢 弢弢 㣇㣇 𣊸𣊸 𦇚𦇚 形形 彫彫 㣣㣣 徚徚 忍忍 志志 忹忹 悁悁 㤺㤺 㤜㤜 悔悔 𢛔𢛔 惇惇 慈慈 慌慌 慎慎 慌慌 慺慺 憎憎 憲憲 憤憤 憯憯 懞懞",
  "懲懲 懶懶 成成 戛戛 扝扝 抱抱 拔拔 捐捐 𢬌𢬌 挽挽 拼拼 捨捨 掃掃 揤揤 𢯱𢯱 搢搢 揅揅 掩掩 㨮㨮 摩摩 摾摾 撝撝 摷摷 㩬㩬 敏敏 敬敬 𣀊𣀊 旣旣 書書 晉晉 㬙㬙",
  "暑暑 㬈㬈 㫤㫤 冒冒 冕冕 最最 暜暜 肭肭 䏙䏙 朗朗 望望 朡朡 杞杞 杓杓 𣏃𣏃 㭉㭉 柺柺 枅枅 桒桒 梅梅 𣑭𣑭 梎梎 栟栟 椔椔 㮝㮝 楂楂 榣榣 槪槪 檨檨 𣚣𣚣 櫛櫛",
  "㰘㰘 次次 𣢧𣢧 歔歔 㱎㱎 歲歲 殟殟 殺殺 殻殻 𣪍𣪍 𡴋𡴋 𣫺𣫺 汎汎 𣲼𣲼 沿沿 泍泍 汧汧 洖洖 派派 海海 流流 浩浩 浸浸 涅涅 𣴞𣴞 洴洴 港港 湮湮 㴳㴳 滋滋 滇滇",
  "𣻑𣻑 淹淹 潮潮 𣽞𣽞 𣾎𣾎 濆濆 瀹瀹 瀞瀞 瀛瀛 㶖㶖 灊灊 災災 灷灷 炭炭 𠔥𠔥 煅煅 𤉣𤉣 熜熜 𤎫𤎫 爨爨 爵爵 牐牐 𤘈𤘈 犀犀 犕犕 𤜵𤜵 𤠔𤠔 獺獺 王王 㺬㺬 玥玥",
  "㺸㺸 㺸㺸 瑇瑇 瑜瑜 瑱瑱 璅璅 瓊瓊 㼛㼛 甤甤 𤰶𤰶 甾甾 𤲒𤲒 異異 𢆟𢆟 瘐瘐 𤾡𤾡 𤾸𤾸 𥁄𥁄 㿼㿼 䀈䀈 直直 𥃳𥃳 𥃲𥃲 𥄙𥄙 𥄳𥄳 眞眞 真真 真真 睊睊 䀹䀹 瞋瞋",
  "䁆䁆 䂖䂖 𥐝𥐝 硎硎 碌碌 磌磌 䃣䃣 𥘦𥘦 祖祖 𥚚𥚚 𥛅𥛅 福福 秫秫 䄯䄯 穀穀 穊穊 穏穏 𥥼𥥼 𥪧𥪧 𥪧𥪧 竮竮 䈂䈂 𥮫𥮫 篆篆 築築 䈧䈧 𥲀𥲀 糒糒 䊠䊠 糨糨 糣糣",
  "紀紀 𥾆𥾆 絣絣 䌁䌁 緇緇 縂縂 繅繅 䌴䌴 𦈨𦈨 𦉇𦉇 䍙䍙 𦋙𦋙 罺罺 𦌾𦌾 羕羕 翺翺 者者 𦓚𦓚 𦔣𦔣 聠聠 𦖨𦖨 聰聰 𣍟𣍟 䏕䏕 育育 脃脃 䐋䐋 脾脾 媵媵 𦞧𦞧 𦞵𦞵",
  "𣎓𣎓 𣎜𣎜 舁舁 舄舄 辞辞 䑫䑫 芑芑 芋芋 芝芝 劳劳 花花 芳芳 芽芽 苦苦 𦬼𦬼 若若 茝茝 荣荣 莭莭 茣茣 莽莽 菧菧 著著 荓荓 菊菊 菌菌 菜菜 𦰶𦰶 𦵫𦵫 𦳕𦳕 䔫䔫",
  "蓱蓱 蓳蓳 蔖蔖 𧏊𧏊 蕤蕤 𦼬𦼬 䕝䕝 䕡䕡 𦾱𦾱 𧃒𧃒 䕫䕫 虐虐 虜虜 虧虧 虩虩 蚩蚩 蚈蚈 蜎蜎 蛢蛢 蝹蝹 蜨蜨 蝫蝫 螆螆 䗗䗗 蟡蟡 蠁蠁 䗹䗹 衠衠 衣衣 𧙧𧙧 裗裗",
  "裞裞 䘵䘵 裺裺 㒻㒻 𧢮𧢮 𧥦𧥦 䚾䚾 䛇䛇 誠誠 諭諭 變變 豕豕 𧲨𧲨 貫貫 賁賁 贛贛 起起 𧼯𧼯 𠠄𠠄 跋跋 趼趼 跰跰 𠣞𠣞 軔軔 輸輸 𨗒𨗒 𨗭𨗭 邔邔 郱郱 鄑鄑 𨜮𨜮",
  "鄛鄛 鈸鈸 鋗鋗 鋘鋘 鉼鉼 鏹鏹 鐕鐕 𨯺𨯺 開開 䦕䦕 閷閷 𨵷𨵷 䧦䧦 雃雃 嶲嶲 霣霣 𩅅𩅅 𩈚𩈚 䩮䩮 䩶䩶 韠韠 𩐊𩐊 䪲䪲 𩒖𩒖 頋頋 頋頋 頩頩 𩖶𩖶 飢飢 䬳䬳 餩餩",
  "馧馧 駂駂 駾駾 䯎䯎 𩬰𩬰 鬒鬒 鱀鱀 鳽鳽 䳎䳎 䳭䳭 鵧鵧 𪃎𪃎 䳸䳸 𪄅𪄅 𪈎𪈎 𪊑𪊑 麻麻 䵖䵖 黹黹 黾黾 鼅鼅 鼏鼏 鼖鼖 鼻鼻 𪘀𪘀"]

/-- Characters with the two parts that they are put together from, in ascending order. -/
def compositeLines : List String := [
  "ÀÀ ÁÁ ÂÂ ÃÃ ÄÄ ÅÅ ÇÇ ÈÈ ÉÉ ÊÊ ËË ÌÌ ÍÍ ÎÎ ÏÏ ÑÑ ÒÒ ÓÓ ÔÔ ÕÕ ÖÖ ÙÙ ÚÚ",
  "ÛÛ ÜÜ ÝÝ àà áá ââ ãã ää åå çç èè éé êê ëë ìì íí îî ïï ññ òò óó ôô õõ",
  "öö ùù úú ûû üü ýý ÿÿ ĀĀ āā ĂĂ ăă ĄĄ ąą ĆĆ ćć ĈĈ ĉĉ ĊĊ ċċ ČČ čč ĎĎ ďď",
  "ĒĒ ēē ĔĔ ĕĕ ĖĖ ėė ĘĘ ęę ĚĚ ěě ĜĜ ĝĝ ĞĞ ğğ ĠĠ ġġ ĢĢ ģģ ĤĤ ĥĥ ĨĨ ĩĩ ĪĪ",
  "īī ĬĬ ĭĭ ĮĮ įį İİ ĴĴ ĵĵ ĶĶ ķķ ĹĹ ĺĺ ĻĻ ļļ ĽĽ ľľ ŃŃ ńń ŅŅ ņņ ŇŇ ňň ŌŌ",
  "ōō ŎŎ ŏŏ ŐŐ őő ŔŔ ŕŕ ŖŖ ŗŗ ŘŘ řř ŚŚ śś ŜŜ ŝŝ ŞŞ şş ŠŠ šš ŢŢ ţţ ŤŤ ťť",
  "ŨŨ ũũ ŪŪ ūū ŬŬ ŭŭ ŮŮ ůů ŰŰ űű ŲŲ ųų ŴŴ ŵŵ ŶŶ ŷŷ ŸŸ ŹŹ źź ŻŻ żż ŽŽ žž",
  "ƠƠ ơơ ƯƯ ưư ǍǍ ǎǎ ǏǏ ǐǐ ǑǑ ǒǒ ǓǓ ǔǔ ǕǕ ǖǖ ǗǗ ǘǘ ǙǙ ǚǚ ǛǛ ǜǜ ǞǞ ǟǟ ǠǠ",
  "ǡǡ ǢǢ ǣǣ ǦǦ ǧǧ ǨǨ ǩǩ ǪǪ ǫǫ ǬǬ ǭǭ ǮǮ ǯǯ ǰǰ ǴǴ ǵǵ ǸǸ ǹǹ ǺǺ ǻǻ ǼǼ ǽǽ ǾǾ",
  "ǿǿ ȀȀ ȁȁ ȂȂ ȃȃ ȄȄ ȅȅ ȆȆ ȇȇ ȈȈ ȉȉ ȊȊ ȋȋ ȌȌ ȍȍ ȎȎ ȏȏ ȐȐ ȑȑ ȒȒ ȓȓ ȔȔ ȕȕ",
  "ȖȖ ȗȗ ȘȘ șș ȚȚ țț ȞȞ ȟȟ ȦȦ ȧȧ ȨȨ ȩȩ ȪȪ ȫȫ ȬȬ ȭȭ ȮȮ ȯȯ ȰȰ ȱȱ ȲȲ ȳȳ ΆΆ",
  "ΈΈ ΉΉ ΊΊ ΌΌ ΎΎ ΏΏ ΐΐ ΪΪ ΫΫ άά έέ ήή ίί ΰΰ ϊϊ ϋϋ όό ύύ ώώ ϓϓ ϔϔ ЀЀ ЁЁ",
  "ЃЃ ЇЇ ЌЌ ЍЍ ЎЎ ЙЙ йй ѐѐ ёё ѓѓ її ќќ ѝѝ ўў ѶѶ ѷѷ ӁӁ ӂӂ ӐӐ ӑӑ ӒӒ ӓӓ ӖӖ",
  "ӗӗ ӚӚ ӛӛ ӜӜ ӝӝ ӞӞ ӟӟ ӢӢ ӣӣ ӤӤ ӥӥ ӦӦ ӧӧ ӪӪ ӫӫ ӬӬ ӭӭ ӮӮ ӯӯ ӰӰ ӱӱ ӲӲ ӳӳ",
  "ӴӴ ӵӵ ӸӸ ӹӹ آآ أأ ؤؤ إإ ئئ ۀۀ ۂۂ ۓۓ ऩऩ ऱऱ ऴऴ োো ৌৌ ୈୈ ୋୋ ୌୌ ஔஔ ொொ ோோ",
  "ௌௌ ైై ೀೀ ೇೇ ೈೈ ೊೊ ೋೋ ൊൊ ോോ ൌൌ ේේ ොො ෝෝ ෞෞ ဦဦ ᬆᬆ ᬈᬈ ᬊᬊ ᬌᬌ ᬎᬎ ᬒᬒ ᬻᬻ ᬽᬽ",
  "ᭀᭀ ᭁᭁ ᭃᭃ ḀḀ ḁḁ ḂḂ ḃḃ ḄḄ ḅḅ ḆḆ ḇḇ ḈḈ ḉḉ ḊḊ ḋḋ ḌḌ ḍḍ ḎḎ ḏḏ ḐḐ ḑḑ ḒḒ ḓḓ",
  "ḔḔ ḕḕ ḖḖ ḗḗ ḘḘ ḙḙ ḚḚ ḛḛ ḜḜ ḝḝ ḞḞ ḟḟ ḠḠ ḡḡ ḢḢ ḣḣ ḤḤ ḥḥ ḦḦ ḧḧ ḨḨ ḩḩ ḪḪ",
  "ḫḫ ḬḬ ḭḭ ḮḮ ḯḯ ḰḰ ḱḱ ḲḲ ḳḳ ḴḴ ḵḵ ḶḶ ḷḷ ḸḸ ḹḹ ḺḺ ḻḻ ḼḼ ḽḽ ḾḾ ḿḿ ṀṀ ṁṁ",
  "ṂṂ ṃṃ ṄṄ ṅṅ ṆṆ ṇṇ ṈṈ ṉṉ ṊṊ ṋṋ ṌṌ ṍṍ ṎṎ ṏṏ ṐṐ ṑṑ ṒṒ ṓṓ ṔṔ ṕṕ ṖṖ ṗṗ ṘṘ",
  "ṙṙ ṚṚ ṛṛ ṜṜ ṝṝ ṞṞ ṟṟ ṠṠ ṡṡ ṢṢ ṣṣ ṤṤ ṥṥ ṦṦ ṧṧ ṨṨ ṩṩ ṪṪ ṫṫ ṬṬ ṭṭ ṮṮ ṯṯ",
  "ṰṰ ṱṱ ṲṲ ṳṳ ṴṴ ṵṵ ṶṶ ṷṷ ṸṸ ṹṹ ṺṺ ṻṻ ṼṼ ṽṽ ṾṾ ṿṿ ẀẀ ẁẁ ẂẂ ẃẃ ẄẄ ẅẅ ẆẆ",
  "ẇẇ ẈẈ ẉẉ ẊẊ ẋẋ ẌẌ ẍẍ ẎẎ ẏẏ ẐẐ ẑẑ ẒẒ ẓẓ ẔẔ ẕẕ ẖẖ ẗẗ ẘẘ ẙẙ ẛẛ ẠẠ ạạ ẢẢ",
  "ảả ẤẤ ấấ ẦẦ ầầ ẨẨ ẩẩ ẪẪ ẫẫ ẬẬ ậậ ẮẮ ắắ ẰẰ ằằ ẲẲ ẳẳ ẴẴ ẵẵ ẶẶ ặặ ẸẸ ẹẹ",
  "ẺẺ ẻẻ ẼẼ ẽẽ ẾẾ ếế ỀỀ ềề ỂỂ ểể ỄỄ ễễ ỆỆ ệệ ỈỈ ỉỉ ỊỊ ịị ỌỌ ọọ ỎỎ ỏỏ ỐỐ",
  "ốố ỒỒ ồồ ỔỔ ổổ ỖỖ ỗỗ ỘỘ ộộ ỚỚ ớớ ỜỜ ờờ ỞỞ ởở ỠỠ ỡỡ ỢỢ ợợ ỤỤ ụụ ỦỦ ủủ",
  "ỨỨ ứứ ỪỪ ừừ ỬỬ ửử ỮỮ ữữ ỰỰ ựự ỲỲ ỳỳ ỴỴ ỵỵ ỶỶ ỷỷ ỸỸ ỹỹ ἀἀ ἁἁ ἂἂ ἃἃ ἄἄ",
  "ἅἅ ἆἆ ἇἇ ἈἈ ἉἉ ἊἊ ἋἋ ἌἌ ἍἍ ἎἎ ἏἏ ἐἐ ἑἑ ἒἒ ἓἓ ἔἔ ἕἕ ἘἘ ἙἙ ἚἚ ἛἛ ἜἜ ἝἝ",
  "ἠἠ ἡἡ ἢἢ ἣἣ ἤἤ ἥἥ ἦἦ ἧἧ ἨἨ ἩἩ ἪἪ ἫἫ ἬἬ ἭἭ ἮἮ ἯἯ ἰἰ ἱἱ ἲἲ ἳἳ ἴἴ ἵἵ ἶἶ",
  "ἷἷ ἸἸ ἹἹ ἺἺ ἻἻ ἼἼ ἽἽ ἾἾ ἿἿ ὀὀ ὁὁ ὂὂ ὃὃ ὄὄ ὅὅ ὈὈ ὉὉ ὊὊ ὋὋ ὌὌ ὍὍ ὐὐ ὑὑ",
  "ὒὒ ὓὓ ὔὔ ὕὕ ὖὖ ὗὗ ὙὙ ὛὛ ὝὝ ὟὟ ὠὠ ὡὡ ὢὢ ὣὣ ὤὤ ὥὥ ὦὦ ὧὧ ὨὨ ὩὩ ὪὪ ὫὫ ὬὬ",
  "ὭὭ ὮὮ ὯὯ ὰὰ ὲὲ ὴὴ ὶὶ ὸὸ ὺὺ ὼὼ ᾀᾀ ᾁᾁ ᾂᾂ ᾃᾃ ᾄᾄ ᾅᾅ ᾆᾆ ᾇᾇ ᾈᾈ ᾉᾉ ᾊᾊ ᾋᾋ ᾌᾌ",
  "ᾍᾍ ᾎᾎ ᾏᾏ ᾐᾐ ᾑᾑ ᾒᾒ ᾓᾓ ᾔᾔ ᾕᾕ ᾖᾖ ᾗᾗ ᾘᾘ ᾙᾙ ᾚᾚ ᾛᾛ ᾜᾜ ᾝᾝ ᾞᾞ ᾟᾟ ᾠᾠ ᾡᾡ ᾢᾢ ᾣᾣ",
  "ᾤᾤ ᾥᾥ ᾦᾦ ᾧᾧ ᾨᾨ ᾩᾩ ᾪᾪ ᾫᾫ ᾬᾬ ᾭᾭ ᾮᾮ ᾯᾯ ᾰᾰ ᾱᾱ ᾲᾲ ᾳᾳ ᾴᾴ ᾶᾶ ᾷᾷ ᾸᾸ ᾹᾹ ᾺᾺ ᾼᾼ",
  "ῂῂ ῃῃ ῄῄ ῆῆ ῇῇ ῈῈ ῊῊ ῌῌ ῐῐ ῑῑ ῒῒ ῖῖ ῗῗ ῘῘ ῙῙ ῚῚ ῠῠ ῡῡ ῢῢ ῤῤ ῥῥ ῦῦ ῧῧ",
  "ῨῨ ῩῩ ῪῪ ῬῬ ῲῲ ῳῳ ῴῴ ῶῶ ῷῷ ῸῸ ῺῺ ῼῼ がが ぎぎ ぐぐ げげ ごご ざざ じじ ずず ぜぜ ぞぞ だだ",
  "ぢぢ づづ でで どど ばば ぱぱ びび ぴぴ ぶぶ ぷぷ べべ ぺぺ ぼぼ ぽぽ ゔゔ ゞゞ ガガ ギギ ググ ゲゲ ゴゴ ザザ ジジ",
  "ズズ ゼゼ ゾゾ ダダ ヂヂ ヅヅ デデ ドド ババ パパ ビビ ピピ ブブ ププ ベベ ペペ ボボ ポポ ヴヴ ヷヷ ヸヸ ヹヹ ヺヺ",
  "ヾヾ 𑂚𑂚 𑂜𑂜 𑂫𑂫 𑄮𑄮 𑄯𑄯 𑍋𑍋 𑍌𑍌 𑒻𑒻 𑒼𑒼 𑒾𑒾 𑖺𑖺 𑖻𑖻 𑤸𑤸"]

/-- Marks of one class, from the first code point to the last. -/
structure MarkBand where
  first : Nat
  last : Nat
  rank : Nat

/-- The marks that attach to the character before them, by their rank in the order of marks. -/
def markBands : Array MarkBand := #[
  ⟨768, 788, 230⟩, ⟨789, 789, 232⟩, ⟨790, 793, 220⟩, ⟨794, 794, 232⟩, ⟨795, 795, 216⟩,
  ⟨796, 800, 220⟩, ⟨801, 802, 202⟩, ⟨803, 806, 220⟩, ⟨807, 808, 202⟩, ⟨809, 819, 220⟩,
  ⟨820, 824, 1⟩, ⟨825, 828, 220⟩, ⟨829, 836, 230⟩, ⟨837, 837, 240⟩, ⟨838, 838, 230⟩,
  ⟨839, 841, 220⟩, ⟨842, 844, 230⟩, ⟨845, 846, 220⟩, ⟨848, 850, 230⟩, ⟨851, 854, 220⟩,
  ⟨855, 855, 230⟩, ⟨856, 856, 232⟩, ⟨857, 858, 220⟩, ⟨859, 859, 230⟩, ⟨860, 860, 233⟩,
  ⟨861, 862, 234⟩, ⟨863, 863, 233⟩, ⟨864, 865, 234⟩, ⟨866, 866, 233⟩, ⟨867, 879, 230⟩,
  ⟨1155, 1159, 230⟩, ⟨1425, 1425, 220⟩, ⟨1426, 1429, 230⟩, ⟨1430, 1430, 220⟩, ⟨1431, 1433, 230⟩,
  ⟨1434, 1434, 222⟩, ⟨1435, 1435, 220⟩, ⟨1436, 1441, 230⟩, ⟨1442, 1447, 220⟩, ⟨1448, 1449, 230⟩,
  ⟨1450, 1450, 220⟩, ⟨1451, 1452, 230⟩, ⟨1453, 1453, 222⟩, ⟨1454, 1454, 228⟩, ⟨1455, 1455, 230⟩,
  ⟨1456, 1456, 10⟩, ⟨1457, 1457, 11⟩, ⟨1458, 1458, 12⟩, ⟨1459, 1459, 13⟩, ⟨1460, 1460, 14⟩,
  ⟨1461, 1461, 15⟩, ⟨1462, 1462, 16⟩, ⟨1463, 1463, 17⟩, ⟨1464, 1464, 18⟩, ⟨1465, 1466, 19⟩,
  ⟨1467, 1467, 20⟩, ⟨1468, 1468, 21⟩, ⟨1469, 1469, 22⟩, ⟨1471, 1471, 23⟩, ⟨1473, 1473, 24⟩,
  ⟨1474, 1474, 25⟩, ⟨1476, 1476, 230⟩, ⟨1477, 1477, 220⟩, ⟨1479, 1479, 18⟩, ⟨1552, 1559, 230⟩,
  ⟨1560, 1560, 30⟩, ⟨1561, 1561, 31⟩, ⟨1562, 1562, 32⟩, ⟨1611, 1611, 27⟩, ⟨1612, 1612, 28⟩,
  ⟨1613, 1613, 29⟩, ⟨1614, 1614, 30⟩, ⟨1615, 1615, 31⟩, ⟨1616, 1616, 32⟩, ⟨1617, 1617, 33⟩,
  ⟨1618, 1618, 34⟩, ⟨1619, 1620, 230⟩, ⟨1621, 1622, 220⟩, ⟨1623, 1627, 230⟩, ⟨1628, 1628, 220⟩,
  ⟨1629, 1630, 230⟩, ⟨1631, 1631, 220⟩, ⟨1648, 1648, 35⟩, ⟨1750, 1756, 230⟩, ⟨1759, 1762, 230⟩,
  ⟨1763, 1763, 220⟩, ⟨1764, 1764, 230⟩, ⟨1767, 1768, 230⟩, ⟨1770, 1770, 220⟩, ⟨1771, 1772, 230⟩,
  ⟨1773, 1773, 220⟩, ⟨1809, 1809, 36⟩, ⟨1840, 1840, 230⟩, ⟨1841, 1841, 220⟩, ⟨1842, 1843, 230⟩,
  ⟨1844, 1844, 220⟩, ⟨1845, 1846, 230⟩, ⟨1847, 1849, 220⟩, ⟨1850, 1850, 230⟩, ⟨1851, 1852, 220⟩,
  ⟨1853, 1853, 230⟩, ⟨1854, 1854, 220⟩, ⟨1855, 1857, 230⟩, ⟨1858, 1858, 220⟩, ⟨1859, 1859, 230⟩,
  ⟨1860, 1860, 220⟩, ⟨1861, 1861, 230⟩, ⟨1862, 1862, 220⟩, ⟨1863, 1863, 230⟩, ⟨1864, 1864, 220⟩,
  ⟨1865, 1866, 230⟩, ⟨2027, 2033, 230⟩, ⟨2034, 2034, 220⟩, ⟨2035, 2035, 230⟩, ⟨2045, 2045, 220⟩,
  ⟨2070, 2073, 230⟩, ⟨2075, 2083, 230⟩, ⟨2085, 2087, 230⟩, ⟨2089, 2093, 230⟩, ⟨2137, 2139, 220⟩,
  ⟨2200, 2200, 230⟩, ⟨2201, 2203, 220⟩, ⟨2204, 2207, 230⟩, ⟨2250, 2254, 230⟩, ⟨2255, 2259, 220⟩,
  ⟨2260, 2273, 230⟩, ⟨2275, 2275, 220⟩, ⟨2276, 2277, 230⟩, ⟨2278, 2278, 220⟩, ⟨2279, 2280, 230⟩,
  ⟨2281, 2281, 220⟩, ⟨2282, 2284, 230⟩, ⟨2285, 2287, 220⟩, ⟨2288, 2288, 27⟩, ⟨2289, 2289, 28⟩,
  ⟨2290, 2290, 29⟩, ⟨2291, 2293, 230⟩, ⟨2294, 2294, 220⟩, ⟨2295, 2296, 230⟩, ⟨2297, 2298, 220⟩,
  ⟨2299, 2303, 230⟩, ⟨2364, 2364, 7⟩, ⟨2381, 2381, 9⟩, ⟨2385, 2385, 230⟩, ⟨2386, 2386, 220⟩,
  ⟨2387, 2388, 230⟩, ⟨2492, 2492, 7⟩, ⟨2509, 2509, 9⟩, ⟨2558, 2558, 230⟩, ⟨2620, 2620, 7⟩,
  ⟨2637, 2637, 9⟩, ⟨2748, 2748, 7⟩, ⟨2765, 2765, 9⟩, ⟨2876, 2876, 7⟩, ⟨2893, 2893, 9⟩,
  ⟨3021, 3021, 9⟩, ⟨3132, 3132, 7⟩, ⟨3149, 3149, 9⟩, ⟨3157, 3157, 84⟩, ⟨3158, 3158, 91⟩,
  ⟨3260, 3260, 7⟩, ⟨3277, 3277, 9⟩, ⟨3387, 3388, 9⟩, ⟨3405, 3405, 9⟩, ⟨3530, 3530, 9⟩,
  ⟨3640, 3641, 103⟩, ⟨3642, 3642, 9⟩, ⟨3656, 3659, 107⟩, ⟨3768, 3769, 118⟩, ⟨3770, 3770, 9⟩,
  ⟨3784, 3787, 122⟩, ⟨3864, 3865, 220⟩, ⟨3893, 3893, 220⟩, ⟨3895, 3895, 220⟩, ⟨3897, 3897, 216⟩,
  ⟨3953, 3953, 129⟩, ⟨3954, 3954, 130⟩, ⟨3956, 3956, 132⟩, ⟨3962, 3965, 130⟩, ⟨3968, 3968, 130⟩,
  ⟨3970, 3971, 230⟩, ⟨3972, 3972, 9⟩, ⟨3974, 3975, 230⟩, ⟨4038, 4038, 220⟩, ⟨4151, 4151, 7⟩,
  ⟨4153, 4154, 9⟩, ⟨4237, 4237, 220⟩, ⟨4957, 4959, 230⟩, ⟨5908, 5909, 9⟩, ⟨5940, 5940, 9⟩,
  ⟨6098, 6098, 9⟩, ⟨6109, 6109, 230⟩, ⟨6313, 6313, 228⟩, ⟨6457, 6457, 222⟩, ⟨6458, 6458, 230⟩,
  ⟨6459, 6459, 220⟩, ⟨6679, 6679, 230⟩, ⟨6680, 6680, 220⟩, ⟨6752, 6752, 9⟩, ⟨6773, 6780, 230⟩,
  ⟨6783, 6783, 220⟩, ⟨6832, 6836, 230⟩, ⟨6837, 6842, 220⟩, ⟨6843, 6844, 230⟩, ⟨6845, 6845, 220⟩,
  ⟨6847, 6848, 220⟩, ⟨6849, 6850, 230⟩, ⟨6851, 6852, 220⟩, ⟨6853, 6857, 230⟩, ⟨6858, 6858, 220⟩,
  ⟨6859, 6862, 230⟩, ⟨6964, 6964, 7⟩, ⟨6980, 6980, 9⟩, ⟨7019, 7019, 230⟩, ⟨7020, 7020, 220⟩,
  ⟨7021, 7027, 230⟩, ⟨7082, 7083, 9⟩, ⟨7142, 7142, 7⟩, ⟨7154, 7155, 9⟩, ⟨7223, 7223, 7⟩,
  ⟨7376, 7378, 230⟩, ⟨7380, 7380, 1⟩, ⟨7381, 7385, 220⟩, ⟨7386, 7387, 230⟩, ⟨7388, 7391, 220⟩,
  ⟨7392, 7392, 230⟩, ⟨7394, 7400, 1⟩, ⟨7405, 7405, 220⟩, ⟨7412, 7412, 230⟩, ⟨7416, 7417, 230⟩,
  ⟨7616, 7617, 230⟩, ⟨7618, 7618, 220⟩, ⟨7619, 7625, 230⟩, ⟨7626, 7626, 220⟩, ⟨7627, 7628, 230⟩,
  ⟨7629, 7629, 234⟩, ⟨7630, 7630, 214⟩, ⟨7631, 7631, 220⟩, ⟨7632, 7632, 202⟩, ⟨7633, 7669, 230⟩,
  ⟨7670, 7670, 232⟩, ⟨7671, 7672, 228⟩, ⟨7673, 7673, 220⟩, ⟨7674, 7674, 218⟩, ⟨7675, 7675, 230⟩,
  ⟨7676, 7676, 233⟩, ⟨7677, 7677, 220⟩, ⟨7678, 7678, 230⟩, ⟨7679, 7679, 220⟩, ⟨8400, 8401, 230⟩,
  ⟨8402, 8403, 1⟩, ⟨8404, 8407, 230⟩, ⟨8408, 8410, 1⟩, ⟨8411, 8412, 230⟩, ⟨8417, 8417, 230⟩,
  ⟨8421, 8422, 1⟩, ⟨8423, 8423, 230⟩, ⟨8424, 8424, 220⟩, ⟨8425, 8425, 230⟩, ⟨8426, 8427, 1⟩,
  ⟨8428, 8431, 220⟩, ⟨8432, 8432, 230⟩, ⟨11503, 11505, 230⟩, ⟨11647, 11647, 9⟩,
  ⟨11744, 11775, 230⟩, ⟨12330, 12330, 218⟩, ⟨12331, 12331, 228⟩, ⟨12332, 12332, 232⟩,
  ⟨12333, 12333, 222⟩, ⟨12334, 12335, 224⟩, ⟨12441, 12442, 8⟩, ⟨42607, 42607, 230⟩,
  ⟨42612, 42621, 230⟩, ⟨42654, 42655, 230⟩, ⟨42736, 42737, 230⟩, ⟨43014, 43014, 9⟩,
  ⟨43052, 43052, 9⟩, ⟨43204, 43204, 9⟩, ⟨43232, 43249, 230⟩, ⟨43307, 43309, 220⟩,
  ⟨43347, 43347, 9⟩, ⟨43443, 43443, 7⟩, ⟨43456, 43456, 9⟩, ⟨43696, 43696, 230⟩,
  ⟨43698, 43699, 230⟩, ⟨43700, 43700, 220⟩, ⟨43703, 43704, 230⟩, ⟨43710, 43711, 230⟩,
  ⟨43713, 43713, 230⟩, ⟨43766, 43766, 9⟩, ⟨44013, 44013, 9⟩, ⟨64286, 64286, 26⟩,
  ⟨65056, 65062, 230⟩, ⟨65063, 65069, 220⟩, ⟨65070, 65071, 230⟩, ⟨66045, 66045, 220⟩,
  ⟨66272, 66272, 220⟩, ⟨66422, 66426, 230⟩, ⟨68109, 68109, 220⟩, ⟨68111, 68111, 230⟩,
  ⟨68152, 68152, 230⟩, ⟨68153, 68153, 1⟩, ⟨68154, 68154, 220⟩, ⟨68159, 68159, 9⟩,
  ⟨68325, 68325, 230⟩, ⟨68326, 68326, 220⟩, ⟨68900, 68903, 230⟩, ⟨69291, 69292, 230⟩,
  ⟨69446, 69447, 220⟩, ⟨69448, 69450, 230⟩, ⟨69451, 69451, 220⟩, ⟨69452, 69452, 230⟩,
  ⟨69453, 69456, 220⟩, ⟨69506, 69506, 230⟩, ⟨69507, 69507, 220⟩, ⟨69508, 69508, 230⟩,
  ⟨69509, 69509, 220⟩, ⟨69702, 69702, 9⟩, ⟨69744, 69744, 9⟩, ⟨69759, 69759, 9⟩, ⟨69817, 69817, 9⟩,
  ⟨69818, 69818, 7⟩, ⟨69888, 69890, 230⟩, ⟨69939, 69940, 9⟩, ⟨70003, 70003, 7⟩, ⟨70080, 70080, 9⟩,
  ⟨70090, 70090, 7⟩, ⟨70197, 70197, 9⟩, ⟨70198, 70198, 7⟩, ⟨70377, 70377, 7⟩, ⟨70378, 70378, 9⟩,
  ⟨70459, 70460, 7⟩, ⟨70477, 70477, 9⟩, ⟨70502, 70508, 230⟩, ⟨70512, 70516, 230⟩,
  ⟨70722, 70722, 9⟩, ⟨70726, 70726, 7⟩, ⟨70750, 70750, 230⟩, ⟨70850, 70850, 9⟩, ⟨70851, 70851, 7⟩,
  ⟨71103, 71103, 9⟩, ⟨71104, 71104, 7⟩, ⟨71231, 71231, 9⟩, ⟨71350, 71350, 9⟩, ⟨71351, 71351, 7⟩,
  ⟨71467, 71467, 9⟩, ⟨71737, 71737, 9⟩, ⟨71738, 71738, 7⟩, ⟨71997, 71998, 9⟩, ⟨72003, 72003, 7⟩,
  ⟨72160, 72160, 9⟩, ⟨72244, 72244, 9⟩, ⟨72263, 72263, 9⟩, ⟨72345, 72345, 9⟩, ⟨72767, 72767, 9⟩,
  ⟨73026, 73026, 7⟩, ⟨73028, 73029, 9⟩, ⟨73111, 73111, 9⟩, ⟨92912, 92916, 1⟩, ⟨92976, 92982, 230⟩,
  ⟨94192, 94193, 6⟩, ⟨113822, 113822, 1⟩, ⟨119141, 119142, 216⟩, ⟨119143, 119145, 1⟩,
  ⟨119149, 119149, 226⟩, ⟨119150, 119154, 216⟩, ⟨119163, 119170, 220⟩, ⟨119173, 119177, 230⟩,
  ⟨119178, 119179, 220⟩, ⟨119210, 119213, 230⟩, ⟨119362, 119364, 230⟩, ⟨122880, 122886, 230⟩,
  ⟨122888, 122904, 230⟩, ⟨122907, 122913, 230⟩, ⟨122915, 122916, 230⟩, ⟨122918, 122922, 230⟩,
  ⟨123184, 123190, 230⟩, ⟨123566, 123566, 230⟩, ⟨123628, 123631, 230⟩, ⟨125136, 125142, 220⟩,
  ⟨125252, 125257, 230⟩, ⟨125258, 125258, 7⟩]

end TemplateWorkbench.Unicode
