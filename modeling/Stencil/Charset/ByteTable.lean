/-!
# Charset — Byte tables

The encodings in which each byte stands for one character, and those of the ASCII half for
themselves: the labels that they go by, and the characters of the other half.
-/

namespace Stencil.Charset

/-- An encoding by single bytes. Its upper half is the characters of the bytes from `80` to `ff`,
with a replacement character for a byte that has no meaning. -/
structure ByteTable where
  name : String
  labels : List String
  upper : String
  deriving DecidableEq, Repr

/-- The control characters, for which the bytes from `80` to `9f` often stand. -/
def controls : String := String.ofList ((List.range 32).map fun i => Char.ofNat (0x80 + i))

/-- The upper half of the encodings of Hebrew, which differ in the direction of writing alone. -/
def hebrew : String :=
  controls ++
    "\xa0\ufffd¢£¤¥¦§\xa8©×«¬\xad®\xaf°±²³\xb4µ¶·\xb8¹÷»¼½¾" ++
    String.ofList (List.replicate 32 '\ufffd') ++
    "‗\u05d0\u05d1\u05d2\u05d3\u05d4\u05d5\u05d6\u05d7\u05d8\u05d9\u05da\u05db\u05dc" ++
    "\u05dd\u05de\u05df\u05e0\u05e1\u05e2\u05e3\u05e4\u05e5\u05e6\u05e7\u05e8\u05e9\u05ea" ++
    "\ufffd\ufffd\u200e\u200f\ufffd"

/-- The encodings by single bytes. -/
def byteTables : List ByteTable :=
  [⟨"IBM866",
      ["866", "cp866", "csibm866", "ibm866"],
      "АБВГДЕЖЗИЙКЛМНОПРСТУФХЦЧШЩЪЫЬЭЮЯабвгдежзийклмноп░▒▓│┤╡╢╖╕╣║╗╝╜╛┐└┴┬├─┼╞╟╚╔╩╦╠═╬╧" ++
        "╨╤╥╙╘╒╓╫╪┘┌█▄▌▐▀рстуфхцчшщъыьэюяЁёЄєЇїЎў°∙·√№¤■\xa0"⟩,
   ⟨"ISO-8859-2",
      ["csisolatin2", "iso-8859-2", "iso-ir-101", "iso8859-2", "iso88592", "iso_8859-2",
       "iso_8859-2:1987", "l2", "latin2"],
      controls ++
        "\xa0Ą\u02d8Ł¤ĽŚ§\xa8ŠŞŤŹ\xadŽŻ°ą\u02dbł\xb4ľś\u02c7\xb8šşťź\u02ddžżŔÁÂĂÄĹĆÇČÉĘËĚ" ++
        "ÍÎĎĐŃŇÓÔŐÖ×ŘŮÚŰÜÝŢßŕáâăäĺćçčéęëěíîďđńňóôőö÷řůúűüýţ\u02d9"⟩,
   ⟨"ISO-8859-3",
      ["csisolatin3", "iso-8859-3", "iso-ir-109", "iso8859-3", "iso88593", "iso_8859-3",
       "iso_8859-3:1988", "l3", "latin3"],
      controls ++
        "\xa0Ħ\u02d8£¤\ufffdĤ§\xa8İŞĞĴ\xad\ufffdŻ°ħ²³\xb4µĥ·\xb8ışğĵ½\ufffdżÀÁÂ\ufffdÄĊĈÇ" ++
        "ÈÉÊËÌÍÎÏ\ufffdÑÒÓÔĠÖ×ĜÙÚÛÜŬŜßàáâ\ufffdäċĉçèéêëìíîï\ufffdñòóôġö÷ĝùúûüŭŝ\u02d9"⟩,
   ⟨"ISO-8859-4",
      ["csisolatin4", "iso-8859-4", "iso-ir-110", "iso8859-4", "iso88594", "iso_8859-4",
       "iso_8859-4:1988", "l4", "latin4"],
      controls ++
        "\xa0ĄĸŖ¤ĨĻ§\xa8ŠĒĢŦ\xadŽ\xaf°ą\u02dbŗ\xb4ĩļ\u02c7\xb8šēģŧŊžŋĀÁÂÃÄÅÆĮČÉĘËĖÍÎĪĐŅŌĶ" ++
        "ÔÕÖ×ØŲÚÛÜŨŪßāáâãäåæįčéęëėíîīđņōķôõö÷øųúûüũū\u02d9"⟩,
   ⟨"ISO-8859-5",
      ["csisolatincyrillic", "cyrillic", "iso-8859-5", "iso-ir-144", "iso8859-5", "iso88595",
       "iso_8859-5", "iso_8859-5:1988"],
      controls ++
        "\xa0ЁЂЃЄЅІЇЈЉЊЋЌ\xadЎЏАБВГДЕЖЗИЙКЛМНОПРСТУФХЦЧШЩЪЫЬЭЮЯабвгдежзийклмнопрстуфхцчшщ" ++
        "ъыьэюя№ёђѓєѕіїјљњћќ§ўџ"⟩,
   ⟨"ISO-8859-6",
      ["arabic", "asmo-708", "csiso88596e", "csiso88596i", "csisolatinarabic", "ecma-114",
       "iso-8859-6", "iso-8859-6-e", "iso-8859-6-i", "iso-ir-127", "iso8859-6", "iso88596",
       "iso_8859-6", "iso_8859-6:1987"],
      controls ++
        "\xa0\ufffd\ufffd\ufffd¤\ufffd\ufffd\ufffd\ufffd\ufffd\ufffd\ufffd\u060c\xad\ufffd" ++
        "\ufffd\ufffd\ufffd\ufffd\ufffd\ufffd\ufffd\ufffd\ufffd\ufffd\ufffd\ufffd\u061b" ++
        "\ufffd\ufffd\ufffd\u061f\ufffd\u0621\u0622\u0623\u0624\u0625\u0626\u0627\u0628" ++
        "\u0629\u062a\u062b\u062c\u062d\u062e\u062f\u0630\u0631\u0632\u0633\u0634\u0635" ++
        "\u0636\u0637\u0638\u0639\u063a\ufffd\ufffd\ufffd\ufffd\ufffd\u0640\u0641\u0642" ++
        "\u0643\u0644\u0645\u0646\u0647\u0648\u0649\u064a\u064b\u064c\u064d\u064e\u064f" ++
        "\u0650\u0651\u0652\ufffd\ufffd\ufffd\ufffd\ufffd\ufffd\ufffd\ufffd\ufffd\ufffd" ++
        "\ufffd\ufffd\ufffd"⟩,
   ⟨"ISO-8859-7",
      ["csisolatingreek", "ecma-118", "elot_928", "greek", "greek8", "iso-8859-7", "iso-ir-126",
       "iso8859-7", "iso88597", "iso_8859-7", "iso_8859-7:1987", "sun_eu_greek"],
      controls ++
        "\xa0‘’£€₯¦§\xa8©\u037a«¬\xad\ufffd―°±²³\u0384\u0385Ά·ΈΉΊ»Ό½ΎΏΐΑΒΓΔΕΖΗΘΙΚΛΜΝΞΟΠΡ" ++
        "\ufffdΣΤΥΦΧΨΩΪΫάέήίΰαβγδεζηθικλμνξοπρςστυφχψωϊϋόύώ\ufffd"⟩,
   ⟨"ISO-8859-8",
      ["csiso88598e", "csisolatinhebrew", "hebrew", "iso-8859-8", "iso-8859-8-e", "iso-ir-138",
       "iso8859-8", "iso88598", "iso_8859-8", "iso_8859-8:1988", "visual"],
      hebrew⟩,
   ⟨"ISO-8859-8-I",
      ["csiso88598i", "iso-8859-8-i", "logical"],
      hebrew⟩,
   ⟨"ISO-8859-10",
      ["csisolatin6", "iso-8859-10", "iso-ir-157", "iso8859-10", "iso885910", "l6", "latin6"],
      controls ++
        "\xa0ĄĒĢĪĨĶ§ĻĐŠŦŽ\xadŪŊ°ąēģīĩķ·ļđšŧž―ūŋĀÁÂÃÄÅÆĮČÉĘËĖÍÎÏÐŅŌÓÔÕÖŨØŲÚÛÜÝÞßāáâãäåæįčé" ++
        "ęëėíîïðņōóôõöũøųúûüýþĸ"⟩,
   ⟨"ISO-8859-13",
      ["iso-8859-13", "iso8859-13", "iso885913"],
      controls ++
        "\xa0”¢£¤„¦§Ø©Ŗ«¬\xad®Æ°±²³“µ¶·ø¹ŗ»¼½¾æĄĮĀĆÄÅĘĒČÉŹĖĢĶĪĻŠŃŅÓŌÕÖ×ŲŁŚŪÜŻŽßąįāćäåęēčé" ++
        "źėģķīļšńņóōõö÷ųłśūüżž’"⟩,
   ⟨"ISO-8859-14",
      ["iso-8859-14", "iso8859-14", "iso885914"],
      controls ++
        "\xa0Ḃḃ£ĊċḊ§Ẁ©ẂḋỲ\xad®ŸḞḟĠġṀṁ¶ṖẁṗẃṠỳẄẅṡÀÁÂÃÄÅÆÇÈÉÊËÌÍÎÏŴÑÒÓÔÕÖṪØÙÚÛÜÝŶßàáâãäåæçèé" ++
        "êëìíîïŵñòóôõöṫøùúûüýŷÿ"⟩,
   ⟨"ISO-8859-15",
      ["csisolatin9", "iso-8859-15", "iso8859-15", "iso885915", "iso_8859-15", "l9"],
      controls ++
        "\xa0¡¢£€¥Š§š©ª«¬\xad®\xaf°±²³Žµ¶·ž¹º»ŒœŸ¿ÀÁÂÃÄÅÆÇÈÉÊËÌÍÎÏÐÑÒÓÔÕÖ×ØÙÚÛÜÝÞßàáâãäåæ" ++
        "çèéêëìíîïðñòóôõö÷øùúûüýþÿ"⟩,
   ⟨"ISO-8859-16",
      ["iso-8859-16"],
      controls ++
        "\xa0ĄąŁ€„Š§š©Ș«Ź\xadźŻ°±ČłŽ”¶·žčș»ŒœŸżÀÁÂĂÄĆÆÇÈÉÊËÌÍÎÏĐŃÒÓÔŐÖŚŰÙÚÛÜĘȚßàáâăäćæçèé" ++
        "êëìíîïđńòóôőöśűùúûüęțÿ"⟩,
   ⟨"KOI8-R",
      ["cskoi8r", "koi", "koi8", "koi8-r", "koi8_r"],
      "─│┌┐└┘├┤┬┴┼▀▄█▌▐░▒▓⌠■∙√≈≤≥\xa0⌡°²·÷═║╒ё╓╔╕╖╗╘╙╚╛╜╝╞╟╠╡Ё╢╣╤╥╦╧╨╩╪╫╬©юабцдефгхийкл" ++
        "мнопярстужвьызшэщчъЮАБЦДЕФГХИЙКЛМНОПЯРСТУЖВЬЫЗШЭЩЧЪ"⟩,
   ⟨"KOI8-U",
      ["koi8-ru", "koi8-u"],
      "─│┌┐└┘├┤┬┴┼▀▄█▌▐░▒▓⌠■∙√≈≤≥\xa0⌡°²·÷═║╒ёє╔ії╗╘╙╚╛ґў╞╟╠╡ЁЄ╣ІЇ╦╧╨╩╪ҐЎ©юабцдефгхийкл" ++
        "мнопярстужвьызшэщчъЮАБЦДЕФГХИЙКЛМНОПЯРСТУЖВЬЫЗШЭЩЧЪ"⟩,
   ⟨"macintosh",
      ["csmacintosh", "mac", "macintosh", "x-mac-roman"],
      "ÄÅÇÉÑÖÜáàâäãåçéèêëíìîïñóòôöõúùûü†°¢£§•¶ß®©™\xb4\xa8≠ÆØ∞±≤≥¥µ∂∑∏π∫ªºΩæø¿¡¬√ƒ≈∆«»…" ++
        "\xa0ÀÃÕŒœ–—“”‘’÷◊ÿŸ⁄€‹›ﬁﬂ‡·‚„‰ÂÊÁËÈÍÎÏÌÓÔ\uf8ffÒÚÛÙı\u02c6\u02dc\xaf\u02d8\u02d9" ++
        "\u02da\xb8\u02dd\u02db\u02c7"⟩,
   ⟨"windows-874",
      ["dos-874", "iso-8859-11", "iso8859-11", "iso885911", "tis-620", "windows-874"],
      "€\x81\x82\x83\x84…\x86\x87\x88\x89\x8a\x8b\x8c\x8d\x8e\x8f\x90‘’“”•–—\x98\x99" ++
        "\x9a\x9b\x9c\x9d\x9e\x9f\xa0กขฃคฅฆงจฉชซฌญฎฏฐฑฒณดตถทธนบปผฝพฟภมยรฤลฦวศษสหฬอฮฯะ" ++
        "\u0e31าำ\u0e34\u0e35\u0e36\u0e37\u0e38\u0e39\u0e3a\ufffd\ufffd\ufffd\ufffd฿เแโใไ" ++
        "ๅ\u0e46\u0e47\u0e48\u0e49\u0e4a\u0e4b\u0e4c\u0e4d\u0e4e๏๐๑๒๓๔๕๖๗๘๙๚๛\ufffd\ufffd" ++
        "\ufffd\ufffd"⟩,
   ⟨"windows-1250",
      ["cp1250", "windows-1250", "x-cp1250"],
      "€\x81‚\x83„…†‡\x88‰Š‹ŚŤŽŹ\x90‘’“”•–—\x98™š›śťžź\xa0\u02c7\u02d8Ł¤Ą¦§\xa8©Ş«¬\xad" ++
        "®Ż°±\u02dbł\xb4µ¶·\xb8ąş»Ľ\u02ddľżŔÁÂĂÄĹĆÇČÉĘËĚÍÎĎĐŃŇÓÔŐÖ×ŘŮÚŰÜÝŢßŕáâăäĺćçčéęëěí" ++
        "îďđńňóôőö÷řůúűüýţ\u02d9"⟩,
   ⟨"windows-1251",
      ["cp1251", "windows-1251", "x-cp1251"],
      "ЂЃ‚ѓ„…†‡€‰Љ‹ЊЌЋЏђ‘’“”•–—\x98™љ›њќћџ\xa0ЎўЈ¤Ґ¦§Ё©Є«¬\xad®Ї°±Ііґµ¶·ё№є»јЅѕїАБВГДЕЖ" ++
        "ЗИЙКЛМНОПРСТУФХЦЧШЩЪЫЬЭЮЯабвгдежзийклмнопрстуфхцчшщъыьэюя"⟩,
   ⟨"windows-1252",
      ["ansi_x3.4-1968", "ascii", "cp1252", "cp819", "csisolatin1", "ibm819", "iso-8859-1",
       "iso-ir-100", "iso8859-1", "iso88591", "iso_8859-1", "iso_8859-1:1987", "l1", "latin1",
       "us-ascii", "windows-1252", "x-cp1252"],
      "€\x81‚ƒ„…†‡\u02c6‰Š‹Œ\x8dŽ\x8f\x90‘’“”•–—\u02dc™š›œ\x9džŸ\xa0¡¢£¤¥¦§\xa8©ª«¬\xad" ++
        "®\xaf°±²³\xb4µ¶·\xb8¹º»¼½¾¿ÀÁÂÃÄÅÆÇÈÉÊËÌÍÎÏÐÑÒÓÔÕÖ×ØÙÚÛÜÝÞßàáâãäåæçèéêëìíîïðñòóô" ++
        "õö÷øùúûüýþÿ"⟩,
   ⟨"windows-1253",
      ["cp1253", "windows-1253", "x-cp1253"],
      "€\x81‚ƒ„…†‡\x88‰\x8a‹\x8c\x8d\x8e\x8f\x90‘’“”•–—\x98™\x9a›\x9c\x9d\x9e\x9f\xa0" ++
        "\u0385Ά£¤¥¦§\xa8©\ufffd«¬\xad®―°±²³\u0384µ¶·ΈΉΊ»Ό½ΎΏΐΑΒΓΔΕΖΗΘΙΚΛΜΝΞΟΠΡ\ufffdΣΤΥΦ" ++
        "ΧΨΩΪΫάέήίΰαβγδεζηθικλμνξοπρςστυφχψωϊϋόύώ\ufffd"⟩,
   ⟨"windows-1254",
      ["cp1254", "csisolatin5", "iso-8859-9", "iso-ir-148", "iso8859-9", "iso88599",
       "iso_8859-9", "iso_8859-9:1989", "l5", "latin5", "windows-1254", "x-cp1254"],
      "€\x81‚ƒ„…†‡\u02c6‰Š‹Œ\x8d\x8e\x8f\x90‘’“”•–—\u02dc™š›œ\x9d\x9eŸ\xa0¡¢£¤¥¦§\xa8©ª" ++
        "«¬\xad®\xaf°±²³\xb4µ¶·\xb8¹º»¼½¾¿ÀÁÂÃÄÅÆÇÈÉÊËÌÍÎÏĞÑÒÓÔÕÖ×ØÙÚÛÜİŞßàáâãäåæçèéêëìíî" ++
        "ïğñòóôõö÷øùúûüışÿ"⟩,
   ⟨"windows-1255",
      ["cp1255", "windows-1255", "x-cp1255"],
      "€\x81‚ƒ„…†‡\u02c6‰\x8a‹\x8c\x8d\x8e\x8f\x90‘’“”•–—\u02dc™\x9a›\x9c\x9d\x9e\x9f" ++
        "\xa0¡¢£₪¥¦§\xa8©×«¬\xad®\xaf°±²³\xb4µ¶·\xb8¹÷»¼½¾¿\u05b0\u05b1\u05b2\u05b3\u05b4" ++
        "\u05b5\u05b6\u05b7\u05b8\u05b9\u05ba\u05bb\u05bc\u05bd\u05be\u05bf\u05c0\u05c1" ++
        "\u05c2\u05c3\u05f0\u05f1\u05f2\u05f3\u05f4\ufffd\ufffd\ufffd\ufffd\ufffd\ufffd" ++
        "\ufffd\u05d0\u05d1\u05d2\u05d3\u05d4\u05d5\u05d6\u05d7\u05d8\u05d9\u05da\u05db" ++
        "\u05dc\u05dd\u05de\u05df\u05e0\u05e1\u05e2\u05e3\u05e4\u05e5\u05e6\u05e7\u05e8" ++
        "\u05e9\u05ea\ufffd\ufffd\u200e\u200f\ufffd"⟩,
   ⟨"windows-1256",
      ["cp1256", "windows-1256", "x-cp1256"],
      "€\u067e‚ƒ„…†‡\u02c6‰\u0679‹Œ\u0686\u0698\u0688\u06af‘’“”•–—\u06a9™\u0691›œ\u200c" ++
        "\u200d\u06ba\xa0\u060c¢£¤¥¦§\xa8©\u06be«¬\xad®\xaf°±²³\xb4µ¶·\xb8¹\u061b»¼½¾\u061f" ++
        "\u06c1\u0621\u0622\u0623\u0624\u0625\u0626\u0627\u0628\u0629\u062a\u062b\u062c" ++
        "\u062d\u062e\u062f\u0630\u0631\u0632\u0633\u0634\u0635\u0636×\u0637\u0638\u0639" ++
        "\u063a\u0640\u0641\u0642\u0643à\u0644â\u0645\u0646\u0647\u0648çèéêë\u0649\u064aî" ++
        "ï\u064b\u064c\u064d\u064eô\u064f\u0650÷\u0651ù\u0652ûü\u200e\u200f\u06d2"⟩,
   ⟨"windows-1257",
      ["cp1257", "windows-1257", "x-cp1257"],
      "€\x81‚\x83„…†‡\x88‰\x8a‹\x8c\xa8\u02c7\xb8\x90‘’“”•–—\x98™\x9a›\x9c\xaf\u02db" ++
        "\x9f\xa0\ufffd¢£¤\ufffd¦§Ø©Ŗ«¬\xad®Æ°±²³\xb4µ¶·ø¹ŗ»¼½¾æĄĮĀĆÄÅĘĒČÉŹĖĢĶĪĻŠŃŅÓŌÕÖ×Ų" ++
        "ŁŚŪÜŻŽßąįāćäåęēčéźėģķīļšńņóōõö÷ųłśūüżž\u02d9"⟩,
   ⟨"windows-1258",
      ["cp1258", "windows-1258", "x-cp1258"],
      "€\x81‚ƒ„…†‡\u02c6‰\x8a‹Œ\x8d\x8e\x8f\x90‘’“”•–—\u02dc™\x9a›œ\x9d\x9eŸ\xa0¡¢£¤¥¦§" ++
        "\xa8©ª«¬\xad®\xaf°±²³\xb4µ¶·\xb8¹º»¼½¾¿ÀÁÂĂÄÅÆÇÈÉÊË\u0300ÍÎÏĐÑ\u0309ÓÔƠÖ×ØÙÚÛÜƯ" ++
        "\u0303ßàáâăäåæçèéêë\u0301íîïđñ\u0323óôơö÷øùúûüư₫ÿ"⟩,
   ⟨"x-mac-cyrillic",
      ["x-mac-cyrillic", "x-mac-ukrainian"],
      "АБВГДЕЖЗИЙКЛМНОПРСТУФХЦЧШЩЪЫЬЭЮЯ†°Ґ£§•¶І®©™Ђђ≠Ѓѓ∞±≤≥іµґЈЄєЇїЉљЊњјЅ¬√ƒ≈∆«»…\xa0Ћћ" ++
        "Ќќѕ–—“”‘’÷„ЎўЏџ№Ёёяабвгдежзийклмнопрстуфхцчшщъыьэю€"⟩]

end Stencil.Charset
