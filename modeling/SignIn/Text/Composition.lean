import SignIn.Text.Blank
import SignIn.Text.Mark

/-!
# Canonical composition

A letter with its marks can be written as one character or as the letter followed by the
marks.  The composed form of a text takes the one character wherever there is one, after
the marks have been put in the order of their combining classes.

## Main definitions

* `compositions` — the pairs that have a character of their own.
* `decompose` — a text with letters and marks apart.
* `reorder` — marks in the order of their classes.
* `compose` — letters and marks joined again.
* `composed` — the composed form.
-/

namespace SignIn.Text

/-- For each second character of a pair, the first ones, each followed by the character
that stands for the two. -/
def compositionRows : Array (Nat × String) := #[
  (0x300, "AÀ EÈ IÌ NǸ OÒ UÙ WẀ YỲ aà eè iì nǹ oò uù wẁ yỳ ¨῭ ÂẦ ÊỀ ÔỒ ÜǛ âầ êề ôồ üǜ ĂẰ ăằ ĒḔ"),
  (0x300, "ēḕ ŌṐ ōṑ ƠỜ ơờ ƯỪ ưừ ΑᾺ ΕῈ ΗῊ ΙῚ ΟῸ ΥῪ ΩῺ αὰ εὲ ηὴ ιὶ οὸ υὺ ωὼ ϊῒ ϋῢ ЕЀ ИЍ еѐ иѝ ἀἂ"),
  (0x300, "ἁἃ ἈἊ ἉἋ ἐἒ ἑἓ ἘἚ ἙἛ ἠἢ ἡἣ ἨἪ ἩἫ ἰἲ ἱἳ ἸἺ ἹἻ ὀὂ ὁὃ ὈὊ ὉὋ ὐὒ ὑὓ ὙὛ ὠὢ ὡὣ ὨὪ ὩὫ ᾿῍ ῾῝"),
  (0x301, "AÁ CĆ EÉ GǴ IÍ KḰ LĹ MḾ NŃ OÓ PṔ RŔ SŚ UÚ WẂ YÝ ZŹ aá cć eé gǵ ií kḱ lĺ mḿ nń oó pṕ"),
  (0x301, "rŕ sś uú wẃ yý zź ¨΅ ÂẤ ÅǺ ÆǼ ÇḈ ÊẾ ÏḮ ÔỐ ÕṌ ØǾ ÜǗ âấ åǻ æǽ çḉ êế ïḯ ôố õṍ øǿ üǘ ĂẮ"),
  (0x301, "ăắ ĒḖ ēḗ ŌṒ ōṓ ŨṸ ũṹ ƠỚ ơớ ƯỨ ưứ ΑΆ ΕΈ ΗΉ ΙΊ ΟΌ ΥΎ ΩΏ αά εέ ηή ιί οό υύ ωώ ϊΐ ϋΰ ϒϓ"),
  (0x301, "ГЃ КЌ гѓ кќ ἀἄ ἁἅ ἈἌ ἉἍ ἐἔ ἑἕ ἘἜ ἙἝ ἠἤ ἡἥ ἨἬ ἩἭ ἰἴ ἱἵ ἸἼ ἹἽ ὀὄ ὁὅ ὈὌ ὉὍ ὐὔ ὑὕ ὙὝ ὠὤ"),
  (0x301, "ὡὥ ὨὬ ὩὭ ᾿῎ ῾῞"),
  (0x302, "AÂ CĈ EÊ GĜ HĤ IÎ JĴ OÔ SŜ UÛ WŴ YŶ ZẐ aâ cĉ eê gĝ hĥ iî jĵ oô sŝ uû wŵ yŷ zẑ ẠẬ ạậ"),
  (0x302, "ẸỆ ẹệ ỌỘ ọộ"),
  (0x303, "AÃ EẼ IĨ NÑ OÕ UŨ VṼ YỸ aã eẽ iĩ nñ oõ uũ vṽ yỹ ÂẪ ÊỄ ÔỖ âẫ êễ ôỗ ĂẴ ăẵ ƠỠ ơỡ ƯỮ ưữ"),
  (0x304, "AĀ EĒ GḠ IĪ OŌ UŪ YȲ aā eē gḡ iī oō uū yȳ ÄǞ ÆǢ ÕȬ ÖȪ ÜǕ äǟ æǣ õȭ öȫ üǖ ǪǬ ǫǭ ȦǠ ȧǡ"),
  (0x304, "ȮȰ ȯȱ ΑᾹ ΙῙ ΥῩ αᾱ ιῑ υῡ ИӢ УӮ иӣ уӯ ḶḸ ḷḹ ṚṜ ṛṝ"),
  (0x306, "AĂ EĔ GĞ IĬ OŎ UŬ aă eĕ gğ iĭ oŏ uŭ ȨḜ ȩḝ ΑᾸ ΙῘ ΥῨ αᾰ ιῐ υῠ АӐ ЕӖ ЖӁ ИЙ УЎ аӑ еӗ жӂ"),
  (0x306, "ий уў ẠẶ ạặ"),
  (0x307, "AȦ BḂ CĊ DḊ EĖ FḞ GĠ HḢ Iİ MṀ NṄ OȮ PṖ RṘ SṠ TṪ WẆ XẊ YẎ ZŻ aȧ bḃ cċ dḋ eė fḟ gġ hḣ"),
  (0x307, "mṁ nṅ oȯ pṗ rṙ sṡ tṫ wẇ xẋ yẏ zż ŚṤ śṥ ŠṦ šṧ ſẛ ṢṨ ṣṩ 𐗒𐗉 𐗚𐗤"),
  (0x308, "AÄ EË HḦ IÏ OÖ UÜ WẄ XẌ YŸ aä eë hḧ iï oö tẗ uü wẅ xẍ yÿ ÕṎ õṏ ŪṺ ūṻ ΙΪ ΥΫ ιϊ υϋ ϒϔ"),
  (0x308, "ІЇ АӒ ЕЁ ЖӜ ЗӞ ИӤ ОӦ УӰ ЧӴ ЫӸ ЭӬ аӓ её жӝ зӟ иӥ оӧ уӱ чӵ ыӹ эӭ ії ӘӚ әӛ ӨӪ өӫ"),
  (0x309, "AẢ EẺ IỈ OỎ UỦ YỶ aả eẻ iỉ oỏ uủ yỷ ÂẨ ÊỂ ÔỔ âẩ êể ôổ ĂẲ ăẳ ƠỞ ơở ƯỬ ưử"),
  (0x30A, "AÅ UŮ aå uů wẘ yẙ"),
  (0x30B, "OŐ UŰ oő uű УӲ уӳ"),
  (0x30C, "AǍ CČ DĎ EĚ GǦ HȞ IǏ KǨ LĽ NŇ OǑ RŘ SŠ TŤ UǓ ZŽ aǎ cč dď eě gǧ hȟ iǐ jǰ kǩ lľ nň oǒ"),
  (0x30C, "rř sš tť uǔ zž ÜǙ üǚ ƷǮ ʒǯ"),
  (0x30F, "AȀ EȄ IȈ OȌ RȐ UȔ aȁ eȅ iȉ oȍ rȑ uȕ ѴѶ ѵѷ"),
  (0x311, "AȂ EȆ IȊ OȎ RȒ UȖ aȃ eȇ iȋ oȏ rȓ uȗ"),
  (0x313, "ΑἈ ΕἘ ΗἨ ΙἸ ΟὈ ΩὨ αἀ εἐ ηἠ ιἰ οὀ ρῤ υὐ ωὠ"),
  (0x314, "ΑἉ ΕἙ ΗἩ ΙἹ ΟὉ ΡῬ ΥὙ ΩὩ αἁ εἑ ηἡ ιἱ οὁ ρῥ υὑ ωὡ"),
  (0x31B, "OƠ UƯ oơ uư"),
  (0x323, "AẠ BḄ DḌ EẸ HḤ IỊ KḲ LḶ MṂ NṆ OỌ RṚ SṢ TṬ UỤ VṾ WẈ YỴ ZẒ aạ bḅ dḍ eẹ hḥ iị kḳ lḷ mṃ"),
  (0x323, "nṇ oọ rṛ sṣ tṭ uụ vṿ wẉ yỵ zẓ ƠỢ ơợ ƯỰ ưự"),
  (0x324, "UṲ uṳ"),
  (0x325, "AḀ aḁ"),
  (0x326, "SȘ TȚ sș tț"),
  (0x327, "CÇ DḐ EȨ GĢ HḨ KĶ LĻ NŅ RŖ SŞ TŢ cç dḑ eȩ gģ hḩ kķ lļ nņ rŗ sş tţ"),
  (0x328, "AĄ EĘ IĮ OǪ UŲ aą eę iį oǫ uų"),
  (0x32D, "DḒ EḘ LḼ NṊ TṰ UṶ dḓ eḙ lḽ nṋ tṱ uṷ"),
  (0x32E, "HḪ hḫ"),
  (0x330, "EḚ IḬ UṴ eḛ iḭ uṵ"),
  (0x331, "BḆ DḎ KḴ LḺ NṈ RṞ TṮ ZẔ bḇ dḏ hẖ kḵ lḻ nṉ rṟ tṯ zẕ"),
  (0x338, "<≮ =≠ >≯ ←↚ →↛ ↔↮ ⇐⇍ ⇒⇏ ⇔⇎ ∃∄ ∈∉ ∋∌ ∣∤ ∥∦ ∼≁ ≃≄ ≅≇ ≈≉ ≍≭ ≡≢ ≤≰ ≥≱ ≲≴ ≳≵ ≶≸ ≷≹ ≺⊀ ≻⊁"),
  (0x338, "≼⋠ ≽⋡ ⊂⊄ ⊃⊅ ⊆⊈ ⊇⊉ ⊑⋢ ⊒⋣ ⊢⊬ ⊨⊭ ⊩⊮ ⊫⊯ ⊲⋪ ⊳⋫ ⊴⋬ ⊵⋭"),
  (0x342, "¨῁ αᾶ ηῆ ιῖ υῦ ωῶ ϊῗ ϋῧ ἀἆ ἁἇ ἈἎ ἉἏ ἠἦ ἡἧ ἨἮ ἩἯ ἰἶ ἱἷ ἸἾ ἹἿ ὐὖ ὑὗ ὙὟ ὠὦ ὡὧ ὨὮ ὩὯ ᾿῏"),
  (0x342, "῾῟"),
  (0x345, "Αᾼ Ηῌ Ωῼ άᾴ ήῄ αᾳ ηῃ ωῳ ώῴ ἀᾀ ἁᾁ ἂᾂ ἃᾃ ἄᾄ ἅᾅ ἆᾆ ἇᾇ Ἀᾈ Ἁᾉ Ἂᾊ Ἃᾋ Ἄᾌ Ἅᾍ Ἆᾎ Ἇᾏ ἠᾐ ἡᾑ ἢᾒ"),
  (0x345, "ἣᾓ ἤᾔ ἥᾕ ἦᾖ ἧᾗ Ἠᾘ Ἡᾙ Ἢᾚ Ἣᾛ Ἤᾜ Ἥᾝ Ἦᾞ Ἧᾟ ὠᾠ ὡᾡ ὢᾢ ὣᾣ ὤᾤ ὥᾥ ὦᾦ ὧᾧ Ὠᾨ Ὡᾩ Ὢᾪ Ὣᾫ Ὤᾬ Ὥᾭ Ὦᾮ"),
  (0x345, "Ὧᾯ ὰᾲ ὴῂ ὼῲ ᾶᾷ ῆῇ ῶῷ"),
  (0x653, "اآ"),
  (0x654, "اأ وؤ يئ ہۂ ےۓ ەۀ"),
  (0x655, "اإ"),
  (0x93C, "नऩ रऱ ळऴ"),
  (0x9BE, "েো"),
  (0x9D7, "েৌ"),
  (0xB3E, "େୋ"),
  (0xB56, "େୈ"),
  (0xB57, "େୌ"),
  (0xBBE, "ெொ ேோ"),
  (0xBD7, "ஒஔ ெௌ"),
  (0xC56, "ెై"),
  (0xCC2, "ೆೊ"),
  (0xCD5, "ಿೀ ೆೇ ೊೋ"),
  (0xCD6, "ೆೈ"),
  (0xD3E, "െൊ േോ"),
  (0xD57, "െൌ"),
  (0xDCA, "ෙේ ොෝ"),
  (0xDCF, "ෙො"),
  (0xDDF, "ෙෞ"),
  (0x102E, "ဥဦ"),
  (0x1B35, "ᬅᬆ ᬇᬈ ᬉᬊ ᬋᬌ ᬍᬎ ᬑᬒ ᬺᬻ ᬼᬽ ᬾᭀ ᬿᭁ ᭂᭃ"),
  (0x3099, "うゔ かが きぎ くぐ けげ こご さざ しじ すず せぜ そぞ ただ ちぢ つづ てで とど はば ひび ふぶ へべ ほぼ ゝゞ ウヴ カガ キギ クグ ケゲ"),
  (0x3099, "コゴ サザ シジ スズ セゼ ソゾ タダ チヂ ツヅ テデ トド ハバ ヒビ フブ ヘベ ホボ ワヷ ヰヸ ヱヹ ヲヺ ヽヾ"),
  (0x309A, "はぱ ひぴ ふぷ へぺ ほぽ ハパ ヒピ フプ ヘペ ホポ"),
  (0x110BA, "𑂙𑂚 𑂛𑂜 𑂥𑂫"),
  (0x11127, "𑄱𑄮 𑄲𑄯"),
  (0x1133E, "𑍇𑍋"),
  (0x11357, "𑍇𑍌"),
  (0x113B8, "𑏅𑎸"),
  (0x113BB, "𑎄𑎅"),
  (0x113C2, "𑎋𑎎 𑏅𑏂"),
  (0x113C9, "𑎂𑎃 𑎐𑎑 𑏅𑏉"),
  (0x114B0, "𑒹𑒼"),
  (0x114BA, "𑒹𑒻"),
  (0x114BD, "𑒹𑒾"),
  (0x115AF, "𑖸𑖺 𑖹𑖻"),
  (0x11930, "𑤵𑤸"),
  (0x1611E, "𖄡𖄞"),
  (0x1611F, "𖄦 𖄡𖄦 𖄢𖄧 𖄩𖄤"),
  (0x16120, "𖄨 𖄡𖄨"),
  (0x16129, "𖄡𖄩"),
  (0x16D67, "𖵣𖵩 𖵨𖵧 𖵩𖵪")]

/-- The pairs of characters with a character of their own: first, second, composite. -/
def compositions : Array (Char × Char × Char) :=
  compositionRows.flatMap fun row =>
    (splitOn ' ' row.2.toList).toArray.filterMap fun word =>
      match word with
      | [first, composite] => some (first, Char.ofNat row.1, composite)
      | _ => none

/-! ### Syllables of Hangul

The syllables are composed by arithmetic: 19 leading consonants, 21 vowels and 27 trailing
consonants or none. -/

/-- A pair of Hangul characters as one. -/
def composeHangul? (first second : Char) : Option Char :=
  let l := first.toNat - 0x1100
  let v := second.toNat - 0x1161
  let t := second.toNat - 0x11A7
  if 0x1100 ≤ first.toNat ∧ l < 19 ∧ 0x1161 ≤ second.toNat ∧ v < 21 then
    some (Char.ofNat (0xAC00 + (l * 21 + v) * 28))
  else if 0xAC00 ≤ first.toNat ∧ first.toNat ≤ 0xD7A3 ∧ (first.toNat - 0xAC00) % 28 = 0 ∧
      0x11A7 < second.toNat ∧ t < 28 then
    some (Char.ofNat (first.toNat + t))
  else none

/-- A Hangul syllable in its parts. -/
def decomposeHangul (c : Char) : List Char :=
  let s := c.toNat - 0xAC00
  let front := [Char.ofNat (0x1100 + s / 588), Char.ofNat (0x1161 + s % 588 / 28)]
  if s % 28 = 0 then front else front ++ [Char.ofNat (0x11A7 + s % 28)]

/-! ### Apart -/

/-- The parts of a character, or the character itself.  The first part can have parts
again. -/
def parts (c : Char) : List Char :=
  if 0xAC00 ≤ c.toNat ∧ c.toNat ≤ 0xD7A3 then decomposeHangul c
  else
    match compositions.find? (·.2.2 == c) with
    | some (first, second, _) => [first, second]
    | none => [c]

/-- A text with letters and marks apart.  No character has more than three marks. -/
def decompose (cs : List Char) : List Char := Nat.repeat (·.flatMap parts) 4 cs

/-- Puts a character in front of an ordered text: it goes behind the marks of lower
classes. -/
def settle (c : Char) : List Char → List Char
  | [] => [c]
  | d :: ds =>
    if combiningClass d ≠ 0 ∧ combiningClass d < combiningClass c then d :: settle c ds
    else c :: d :: ds

/-- A text with the marks of each letter in the order of their classes. -/
def reorder (cs : List Char) : List Char := cs.foldr settle []

/-! ### Together -/

/-- A pair of characters as one. -/
def compose? (first second : Char) : Option Char :=
  ((compositions.find? fun p => p.1 == first && p.2.1 == second).map (·.2.2)).or
    (composeHangul? first second)

/-- Composes what follows a letter, given the marks kept so far, the last one first, and
the class of the last.  A mark reaches the letter if none of the same or a higher class
is in between. -/
def composeAfter (letter : Char) (kept : List Char) (last : Nat) : List Char → List Char
  | [] => letter :: kept.reverse
  | c :: cs =>
    let k := combiningClass c
    let joined := if kept.isEmpty || last < k then compose? letter c else none
    match joined with
    | some d => composeAfter d kept last cs
    | none =>
      if k = 0 then letter :: kept.reverse ++ composeAfter c [] 0 cs
      else composeAfter letter (c :: kept) k cs

/-- A text with letters and marks joined. -/
def compose : List Char → List Char
  | [] => []
  | c :: cs => if combiningClass c = 0 then composeAfter c [] 0 cs else c :: compose cs

/-- The composed form of a text. -/
def composed (cs : List Char) : List Char := compose (reorder (decompose cs))

end SignIn.Text
